import WasmScope.Module.Basic

namespace WasmScope

inductive LogValue where
  | int (n : Int)
  | text (s : String)
  | bytes (bs : List UInt8)
deriving DecidableEq, Repr

inductive Event where
  | header (version : FourBytes)
  | sectionStart (id : SectionId) (offset : Nat) (size : UInt32)
  | trailingBytes (index offset count : Nat)
  | body (index : Nat) (size : UInt32) (localEntries instructions : Nat)
  | moduleDecoded (sections bytes : Nat)
  | exportVerified (name : String) (func : UInt32) (type : FuncType)
  | moduleVerified (exports : Nat)
deriving DecidableEq, Repr

namespace Event

def message : Event → String
  | header .. => "module header"
  | sectionStart .. => "decoding section"
  | trailingBytes .. => "ignoring trailing bytes in function body"
  | body .. => "decoded function body"
  | moduleDecoded .. => "module decoded"
  | exportVerified .. => "export verified"
  | moduleVerified .. => "module verified"

def fields : Event → List (String × LogValue)
  | header version => [("version", .bytes version.toList)]
  | sectionStart id offset size =>
    [("section", .text id.name), ("id", .int id.byte.toNat), ("offset", .int offset),
      ("size", .int size.toNat)]
  | trailingBytes index offset count =>
    [("index", .int index), ("offset", .int offset), ("bytes", .int count)]
  | body index size localEntries instructions =>
    [("index", .int index), ("size", .int size.toNat), ("local_entries", .int localEntries),
      ("instructions", .int instructions)]
  | moduleDecoded sections bytes => [("sections", .int sections), ("bytes", .int bytes)]
  | exportVerified name func type =>
    [("name", .text name), ("func", .int func.toNat), ("type", .text type.text)]
  | moduleVerified exports => [("exports", .int exports)]

end Event

/-- Work that may fail and that leaves its log behind either way. -/
abbrev Logged (ε : Type) := ExceptT ε (StateM (Array Event))

namespace Logged

variable {ε : Type}

def note (events : List Event) : Logged ε Unit := fun log => (.ok (), log ++ events)

def outcome {α : Type} (work : Logged ε α) : Except ε α × Array Event := work.run #[]

end Logged

end WasmScope

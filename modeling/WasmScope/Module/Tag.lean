namespace WasmScope

structure ValType where
  tag : UInt8
deriving DecidableEq, Repr

/-- Numbers and references are told apart; other tags are no value types. -/
inductive ValClass where
  | invalid
  | num
  | ref
deriving DecidableEq, Repr

namespace ValType

def i32 : ValType := ⟨0x7F⟩
def i64 : ValType := ⟨0x7E⟩
def f32 : ValType := ⟨0x7D⟩
def f64 : ValType := ⟨0x7C⟩
def funcref : ValType := ⟨0x70⟩
def externref : ValType := ⟨0x6F⟩

def unset : ValType := ⟨0⟩

def valClass (t : ValType) : ValClass :=
  match t.tag with
  | 0x7F | 0x7E | 0x7D | 0x7C => .num
  | 0x70 | 0x6F => .ref
  | _ => .invalid

def isValid (t : ValType) : Bool := t.valClass != .invalid

def name (t : ValType) : String :=
  match t.tag with
  | 0x7F => "i32"
  | 0x7E => "i64"
  | 0x7D => "f32"
  | 0x7C => "f64"
  | 0x70 => "funcref"
  | 0x6F => "externref"
  | _ => "unknown"

end ValType

structure SectionId where
  byte : UInt8
deriving DecidableEq, Repr

namespace SectionId

def types : SectionId := ⟨1⟩
def functions : SectionId := ⟨3⟩
def exports : SectionId := ⟨7⟩
def code : SectionId := ⟨10⟩

def name (id : SectionId) : String :=
  match id.byte with
  | 0 => "custom"
  | 1 => "type"
  | 2 => "import"
  | 3 => "function"
  | 4 => "table"
  | 5 => "memory"
  | 6 => "global"
  | 7 => "export"
  | 8 => "start"
  | 9 => "element"
  | 10 => "code"
  | 11 => "data"
  | 12 => "datacount"
  | _ => "unknown"

end SectionId

structure ExportKind where
  code : UInt8
deriving DecidableEq, Repr

namespace ExportKind

def func : ExportKind := ⟨0⟩
def table : ExportKind := ⟨1⟩
def memory : ExportKind := ⟨2⟩
def global : ExportKind := ⟨3⟩

def name (k : ExportKind) : String :=
  match k.code with
  | 0 => "func"
  | 1 => "table"
  | 2 => "memory"
  | 3 => "global"
  | _ => "unknown"

end ExportKind

structure Opcode where
  code : UInt8
deriving DecidableEq, Repr

namespace Opcode

def block : Opcode := ⟨0x02⟩
def loop : Opcode := ⟨0x03⟩
def cond : Opcode := ⟨0x04⟩
def otherwise : Opcode := ⟨0x05⟩
def close : Opcode := ⟨0x0B⟩
def br : Opcode := ⟨0x0C⟩
def brIf : Opcode := ⟨0x0D⟩
def localGet : Opcode := ⟨0x20⟩
def localSet : Opcode := ⟨0x21⟩
def i32Const : Opcode := ⟨0x41⟩
def i32Eqz : Opcode := ⟨0x45⟩
def i32Eq : Opcode := ⟨0x46⟩
def i32LtS : Opcode := ⟨0x48⟩
def i32GeS : Opcode := ⟨0x4E⟩
def i32Add : Opcode := ⟨0x6A⟩
def i32RemS : Opcode := ⟨0x6F⟩

def unset : Opcode := ⟨0⟩

def mnemonic (op : Opcode) : String :=
  match op.code with
  | 0x02 => "block"
  | 0x03 => "loop"
  | 0x04 => "if"
  | 0x05 => "else"
  | 0x0B => "end"
  | 0x0C => "br"
  | 0x0D => "br_if"
  | 0x20 => "local.get"
  | 0x21 => "local.set"
  | 0x41 => "i32.const"
  | 0x45 => "i32.eqz"
  | 0x46 => "i32.eq"
  | 0x48 => "i32.lt_s"
  | 0x4E => "i32.ge_s"
  | 0x6A => "i32.add"
  | 0x6F => "i32.rem_s"
  | _ => "unknown"

end Opcode

end WasmScope

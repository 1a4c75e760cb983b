import WasmScope.Text.Hex
import WasmScope.Text.Quoted

namespace WasmScope

structure Phase where
  name : String
deriving DecidableEq, Repr

namespace Phase

def read : Phase := ⟨"read"⟩
def decode : Phase := ⟨"decode"⟩
def validate : Phase := ⟨"validate"⟩
def load : Phase := ⟨"load"⟩
def verify : Phase := ⟨"verify"⟩

def unspecified : Phase := ⟨""⟩

end Phase

structure Kind where
  name : String
deriving DecidableEq, Repr

namespace Kind

def bufferUnderrun : Kind := ⟨"buffer_underrun"⟩
def invalidMagic : Kind := ⟨"invalid_magic"⟩
def invalidValType : Kind := ⟨"invalid_val_type"⟩
def invalidFuncTypeTag : Kind := ⟨"invalid_func_type_tag"⟩
def invalidOpcode : Kind := ⟨"invalid_opcode"⟩
def unexpectedElse : Kind := ⟨"unexpected_else"⟩
def unknownSectionId : Kind := ⟨"unknown_section_id"⟩
def invalidUtf8 : Kind := ⟨"invalid_utf8"⟩
def trailingBytes : Kind := ⟨"trailing_bytes"⟩
def outOfBounds : Kind := ⟨"out_of_bounds"⟩
def duplicate : Kind := ⟨"duplicate"⟩
def notFound : Kind := ⟨"not_found"⟩
def invalidInput : Kind := ⟨"invalid_input"⟩
def invalidData : Kind := ⟨"invalid_data"⟩
def mismatch : Kind := ⟨"mismatch"⟩

def unspecified : Kind := ⟨""⟩

end Kind

inductive Value where
  | none
  | int (n : Int)
  | text (s : String)
  | bytes (bs : List UInt8)
deriving DecidableEq, Repr

/-- One failure. A negative offset says that no input position is known. -/
structure Report where
  phase : Phase
  kind : Kind
  path : List String := []
  offset : Int := -1
  detail : String := ""
  value : Value := .none
deriving DecidableEq, Repr

namespace Report

/-- The report in one line; parts that are empty or unknown are left out. -/
def text (r : Report) : String :=
  "[" ++ r.phase.name ++ "] " ++ r.kind.name
    ++ (if r.path.isEmpty then "" else " at " ++ ".".intercalate r.path)
    ++ (if r.offset < 0 then "" else " (offset " ++ toString r.offset ++ ")")
    ++ (if r.detail.isEmpty then "" else ": " ++ r.detail)

def bufferUnderrun (offset want remaining : Int) : Report where
  phase := .read
  kind := .bufferUnderrun
  offset := offset
  value := .int want
  detail := "need " ++ toString want ++ " byte(s), " ++ toString remaining ++ " remaining"

def invalidMagic (got : List UInt8) : Report where
  phase := .decode
  kind := .invalidMagic
  offset := 0
  value := .bytes got
  detail := "got " ++ Text.spacedHex got ++ ", want 00 61 73 6d"

def invalidValType (offset : Int) (tag : UInt8) : Report where
  phase := .decode
  kind := .invalidValType
  offset := offset
  value := .int tag.toNat
  detail := "invalid value type 0x" ++ Text.hexByte tag

def invalidFuncTypeTag (offset : Int) (tag : UInt8) : Report where
  phase := .decode
  kind := .invalidFuncTypeTag
  offset := offset
  value := .int tag.toNat
  detail := "expected functype (0x60), got 0x" ++ Text.hexByte tag

def invalidOpcode (offset : Int) (code : UInt8) : Report where
  phase := .decode
  kind := .invalidOpcode
  offset := offset
  value := .int code.toNat
  detail := "invalid opcode 0x" ++ Text.hexByte code

def unexpectedElse (offset : Int) : Report where
  phase := .decode
  kind := .unexpectedElse
  offset := offset
  detail := "else terminator outside of if"

def unknownSectionId (offset : Int) (id : UInt8) : Report where
  phase := .decode
  kind := .unknownSectionId
  offset := offset
  value := .int id.toNat
  detail := "unknown section ID: 0x" ++ Text.hexByte id

/-- A name that is not valid UTF-8; at most 32 bytes of it are shown. -/
def invalidUtf8 (offset : Int) (bytes : List UInt8) : Report where
  phase := .read
  kind := .invalidUtf8
  offset := offset
  detail := "invalid UTF-8 sequence: " ++ Text.hexBytes (bytes.take 32)

def nestingTooDeep (offset limit : Int) : Report where
  phase := .decode
  kind := .invalidInput
  offset := offset
  value := .int limit
  detail := "nesting exceeds " ++ toString limit ++ " levels"

def trailingBytes (offset count : Int) : Report where
  phase := .decode
  kind := .trailingBytes
  offset := offset
  value := .int count
  detail := toString count ++ " unconsumed byte(s)"

def outOfBounds (phase : Phase) (path : List String) (index length : Int) : Report where
  phase := phase
  kind := .outOfBounds
  path := path
  value := .int index
  detail := "index " ++ toString index ++ " out of bounds (length " ++ toString length ++ ")"

def duplicate (phase : Phase) (path : List String) (what name : String) : Report where
  phase := phase
  kind := .duplicate
  path := path
  value := .text name
  detail := "duplicate " ++ what ++ " " ++ Text.quoted name

def notFound (phase : Phase) (what name : String) : Report where
  phase := phase
  kind := .notFound
  detail := what ++ " " ++ Text.quoted name ++ " not found"

def invalidInput (phase : Phase) (detail : String) : Report where
  phase := phase
  kind := .invalidInput
  detail := detail

def mismatch (phase : Phase) (path : List String) (detail : String) : Report where
  phase := phase
  kind := .mismatch
  path := path
  detail := detail

end Report

end WasmScope

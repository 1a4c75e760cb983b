import WasmScope.Engine.Code
import WasmScope.Engine.Segment

namespace WasmScope.Engine

inductive External where
  | function (type : Nat)
  | table (element : ValType)
  | memory
  | global (type : GlobalType)
deriving DecidableEq, Repr

structure ImportEntry where
  moduleName : String
  item : External
deriving DecidableEq, Repr

def importEntry : Parser ImportEntry := do
  let moduleName ← name
  let _ ← name
  let kind ← byte
  let item ← (match kind with
    | 0 => External.function <$> u32
    | 1 => External.table <$> tableType
    | 2 => do
      memoryType
      pure External.memory
    | 3 => External.global <$> globalType
    | _ => refuse : Parser External)
  pure ⟨moduleName, item⟩

structure ExportEntry where
  name : String
  kind : UInt8
  index : Nat
deriving DecidableEq, Repr

def exportEntry : Parser ExportEntry := do
  let name ← name
  let kind ← byte
  require (kind.toNat ≤ 3)
  let index ← u32
  pure ⟨name, kind, index⟩

structure Parts where
  types : List FuncType := []
  imports : List ImportEntry := []
  functions : List Nat := []
  tables : List ValType := []
  hasMemory : Bool := false
  globals : List (GlobalType × Constant) := []
  exports : List ExportEntry := []
  start : Option Nat := none
  elements : List ElementSegment := []
  dataCount : Option Nat := none
  bodies : List Body := []
  data : List Placement := []
  hasNames : Bool := false
deriving Repr

def indexName : Parser Unit := do
  let _ ← u32
  let _ ← name
  pure ()

/-- A part of the names: that of the module, those of functions and those of their locals. Only of
others does the size matter. -/
def namePart (id : UInt8) (size : Nat) : Parser Unit :=
  match id with
  | 0 => do
    let _ ← name
    pure ()
  | 1 => do
    let _ ← vector indexName
    pure ()
  | 2 => do
    let _ ← vector (do
      let _ ← u32
      vector indexName)
    pure ()
  | _ => do
    let _ ← take size
    pure ()

/-- Parts of the names up to a limit, from which each takes what it declares. The limit has 64 bits:
where too much is declared it starts again from the top, and the names go on to the end of the
input. -/
def nameParts (fuel : Nat) (limit : UInt64) : Parser Unit := fun input =>
  match fuel, input with
  | _, [] => some ((), [])
  | 0, _ => none
  | fuel + 1, id :: rest =>
    if limit = 0 then some ((), id :: rest)
    else
      match measured u32 rest with
      | none => none
      | some ((size, sizeLength), rest) =>
        match namePart id size rest with
        | none => none
        | some (_, rest) =>
          nameParts fuel (limit - 1 - sizeLength.toUInt64 - size.toUInt64) rest

/-- A section of the given size that starts with its name. There is at most one section of names;
what other sections hold is skipped, but the input must not end with the name. -/
def customSection (size : Nat) (p : Parts) : Parser Parts := do
  let (title, length) ← measured name
  require (length ≤ size)
  if title = "name" then do
    require (!p.hasNames)
    let rest ← get
    nameParts rest.length (size - length).toUInt64
    pure { p with hasNames := true }
  else do
    let rest ← get
    require (!rest.isEmpty)
    let _ ← take (size - length)
    pure p

def memorySection : Parser Bool := do
  let count ← u32
  match count with
  | 0 => pure false
  | 1 => do
    memoryType
    pure true
  | _ => refuse

/-- The number of data segments. The end of the input may cut it short, and it is 0 then. -/
def dataCountSection : Parser Nat := fun input =>
  if input.length < groups 32 && input.all (128 ≤ ·.toNat) then some (0, []) else u32 input

def sectionParser (id : UInt8) (size : Nat) (p : Parts) : Parser Parts :=
  match id with
  | 0 => customSection size p
  | 1 => do
    let types ← vector funcType
    pure { p with types }
  | 2 => do
    let imports ← vector importEntry
    pure { p with imports }
  | 3 => do
    let functions ← vector u32
    pure { p with functions }
  | 4 => do
    let tables ← vector tableType
    pure { p with tables }
  | 5 => do
    let hasMemory ← memorySection
    pure { p with hasMemory }
  | 6 => do
    let globals ← vector (do
      let type ← globalType
      let init ← constant
      pure (type, init))
    pure { p with globals }
  | 7 => do
    let exports ← vector exportEntry
    require (decide (exports.map (·.name)).Nodup)
    pure { p with exports }
  | 8 => do
    require p.start.isNone
    let start ← u32
    pure { p with start := some start }
  | 9 => do
    let elements ← vector elementSegment
    pure { p with elements }
  | 10 => do
    let bodies ← vector functionBody
    pure { p with bodies }
  | 11 => do
    let data ← vector dataSegment
    pure { p with data }
  | 12 => do
    let count ← dataCountSection
    pure { p with dataCount := some count }
  | _ => refuse

def sizedSection (p : Parts) : Parser Parts := do
  let id ← byte
  let size ← u32
  let (p, length) ← measured (sectionParser id size p)
  require (length == size)
  pure p

def readSections (fuel : Nat) (p : Parts) (input : List UInt8) : Option Parts :=
  match fuel, input with
  | _, [] => some p
  | 0, _ => none
  | fuel + 1, input =>
    match sizedSection p input with
    | none => none
    | some (p, rest) => readSections fuel p rest

/-- The parts of the module that the bytes consist of. No module has more sections than bytes. -/
def parts? (data : List UInt8) : Option Parts :=
  match data with
  | 0x00 :: 0x61 :: 0x73 :: 0x6D :: 0x01 :: 0x00 :: 0x00 :: 0x00 :: rest =>
    readSections rest.length {} rest
  | _ => none

end WasmScope.Engine

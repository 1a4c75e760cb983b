import WasmScope.Engine.Types

namespace WasmScope.Engine

inductive Constant where
  | value (type : ValType)
  | null (type : ValType)
  | function (index : Nat)
  /-- The value of a global. As an item of an element segment it has the index `item`. -/
  | global (index item : Nat)
deriving DecidableEq, Repr

/-- The index of a global as an item of an element segment: its bytes as a signed integer, cut to 32
bits and without the second highest. Bytes that are no signed integer count as 0. -/
def itemIndex (input : List UInt8) : Nat :=
  match signed 32 input with
  | some (n, _) => ((n % 0x100000000).toNat.toUInt32 &&& 0xBFFFFFFF).toNat
  | none => 0

def globalConstant : Parser Constant := fun input =>
  (u32 input).map fun (index, rest) => (.global index (itemIndex input), rest)

def constant : Parser Constant := do
  let code ← byte
  let c ← (match code with
    | 0x41 => do
      let _ ← signed 32
      pure (Constant.value .i32)
    | 0x42 => do
      let _ ← signed 64
      pure (Constant.value .i64)
    | 0x43 => do
      let _ ← take 4
      pure (Constant.value .f32)
    | 0x44 => do
      let _ ← take 8
      pure (Constant.value .f64)
    | 0xFD => do
      expect 12
      let _ ← take 16
      pure (Constant.value v128)
    | 0xD0 => Constant.null <$> refType
    | 0xD2 => Constant.function <$> u32
    | 0x23 => globalConstant
    | _ => refuse : Parser Constant)
  expect 0x0B
  pure c

inductive Placement where
  | passive
  | declared
  | active (index : Nat) (offset : Constant)
deriving DecidableEq, Repr

structure ElementSegment where
  type : ValType
  placement : Placement
  items : List Constant
deriving Repr

def elementKind : Parser Unit := expect 0

def functionItem : Parser Constant := do
  let index ← u32
  require (index < indexRange)
  pure (.function index)

def functionItems : Parser (List Constant) := vector functionItem

/-- An item that could be an element of the given type. What a global holds is not looked at. -/
def isItemOf (type : ValType) : Constant → Bool
  | .value _ => false
  | .null t => t == type
  | .function index => type == .funcref && index < indexRange
  | .global _ _ => true

def constantItems (type : ValType) : Parser (List Constant) := vector do
  let item ← constant
  require (isItemOf type item)
  pure item

def elementSegment : Parser ElementSegment := do
  let flag ← u32
  match flag with
  | 0 => do
    let offset ← constant
    let items ← functionItems
    pure ⟨.funcref, .active 0 offset, items⟩
  | 1 => do
    elementKind
    let items ← functionItems
    pure ⟨.funcref, .passive, items⟩
  | 2 => do
    let table ← u32
    let offset ← constant
    elementKind
    let items ← functionItems
    pure ⟨.funcref, .active table offset, items⟩
  | 3 => do
    elementKind
    let items ← functionItems
    pure ⟨.funcref, .declared, items⟩
  | 4 => do
    let offset ← constant
    let items ← constantItems .funcref
    pure ⟨.funcref, .active 0 offset, items⟩
  | 5 => do
    let type ← refType
    let items ← constantItems type
    pure ⟨type, .passive, items⟩
  | 6 => do
    let table ← u32
    let offset ← constant
    let type ← refType
    let items ← constantItems type
    pure ⟨type, .active table offset, items⟩
  | 7 => do
    let type ← refType
    let items ← constantItems type
    pure ⟨type, .declared, items⟩
  | _ => refuse

/-- A data segment, of which only the place counts. There is only one memory to go to. -/
def dataSegment : Parser Placement := do
  let flag ← u32
  let placement ← (match flag with
    | 0 => Placement.active 0 <$> constant
    | 1 => pure .passive
    | 2 => do
      let memory ← u32
      require (memory == 0)
      Placement.active 0 <$> constant
    | _ => refuse : Parser Placement)
  let length ← u32
  let _ ← take length
  pure placement

end WasmScope.Engine

import WasmScope.Engine.Input

namespace WasmScope.Engine

def v128 : ValType := ⟨0x7B⟩

def isReference (t : ValType) : Bool := t == .funcref || t == .externref

def isValueType (t : ValType) : Bool := t.isValid || t == v128

def valType : Parser ValType := do
  let tag ← byte
  require (isValueType ⟨tag⟩)
  pure ⟨tag⟩

def refType : Parser ValType := do
  let tag ← byte
  require (isReference ⟨tag⟩)
  pure ⟨tag⟩

def funcType : Parser FuncType := do
  expect 0x60
  let params ← vector valType
  let results ← vector valType
  pure ⟨params, results⟩

def limits (leastRange mostRange : Nat) : Parser Unit := do
  let flag ← byte
  match flag with
  | 0 => do
    let least ← u32
    require (least ≤ leastRange)
  | 1 => do
    let least ← u32
    let most ← u32
    require (least ≤ leastRange && least ≤ most && most ≤ mostRange)
  | _ => refuse

/-- Functions have smaller indices, and tables start with at most as many entries. -/
def indexRange : Nat := 0x8000000

def tableType : Parser ValType := do
  let tag ← byte
  limits indexRange 0xFFFFFFFF
  pure ⟨tag⟩

def memoryType : Parser Unit := limits 0x10000 0x10000

structure GlobalType where
  type : ValType
  mutable : Bool
deriving DecidableEq, Repr

def globalType : Parser GlobalType := do
  let type ← valType
  let flag ← byte
  require (flag == 0 || flag == 1)
  pure ⟨type, flag == 1⟩

structure Context where
  types : List FuncType := []
  functions : List FuncType := []
  tables : List ValType := []
  hasMemory : Bool := false
  globals : List GlobalType := []
  elements : List ValType := []
  dataCount : Option Nat := none
  /-- The functions that code may take references to. -/
  references : List Nat := []
deriving Repr

end WasmScope.Engine

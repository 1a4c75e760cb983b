import WasmScope.Binary.Leb128
import WasmScope.Module.Basic

namespace WasmScope

/-- The value type with a tag; a tag outside the format is reported without a position. -/
def ValType.ofTag (tag : UInt8) : Except Report ValType :=
  if (ValType.mk tag).isValid then .ok ⟨tag⟩ else .error (.invalidValType (-1) tag)

namespace Reader

def valType : Reader ValType := do
  let position ← position
  let tag ← byte
  if (ValType.mk tag).isValid then pure ⟨tag⟩ else fail (.invalidValType position tag)

def emptyBlockTag : UInt8 := 0x40

/-- A block type. Its first byte tells the forms apart: the tag of none, a value type, or else the
start of a signed type index, which must not be negative. -/
def blockType : Reader BlockType := fun c =>
  match byte c with
  | .error d => .error d
  | .ok (lead, rest) =>
    if lead = emptyBlockTag then .ok (.empty, rest)
    else if (ValType.mk lead).isValid then .ok (.ofValue ⟨lead⟩, rest)
    else
      match s32 c with
      | .error d => .error d
      | .ok (index, rest) =>
        if index < 0 then .error (.invalidValType c.position lead)
        else .ok (.ofIndex index, rest)

def funcTypeTag : UInt8 := 0x60

def funcType : Reader FuncType := do
  let position ← position
  let tag ← byte
  if tag = funcTypeTag then
    let params ← vector valType
    let results ← vector valType
    pure ⟨params, results⟩
  else fail (.invalidFuncTypeTag position tag)

def localEntry : Reader LocalEntry := do
  let count ← u32
  let type ← valType
  pure ⟨count, type⟩

def exportEntry : Reader Export := do
  let name ← name
  let kind ← byte
  let index ← u32
  pure ⟨name, ⟨kind⟩, index⟩

end Reader

end WasmScope

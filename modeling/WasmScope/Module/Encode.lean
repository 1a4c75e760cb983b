import WasmScope.Binary.Output
import WasmScope.Module.Basic

namespace WasmScope

namespace BlockType

/-- The bytes of a block type; a kind without a meaning is written as none. -/
def encode (bt : BlockType) : List UInt8 :=
  match bt.kind.code with
  | 1 => [bt.value.tag]
  | 2 => Output.s32 bt.typeIndex
  | _ => [0x40]

end BlockType

mutual

def Instr.encode : Instr → List UInt8
  | .localVar access index => access.opcode.code :: Output.u32 index
  | .const value => Opcode.i32Const.code :: Output.s32 value
  | .numeric op => [op.opcode.code]
  | .branch mode label => mode.opcode.code :: Output.u32 label
  | .block shape type body =>
    shape.opcode.code :: type.encode ++ body.encodeInstrs ++ [Opcode.close.code]
  | .cond type thn els =>
    Opcode.cond.code :: type.encode ++ thn.encodeInstrs
      ++ (if hasElseBranch thn els then Opcode.otherwise.code :: els.encodeInstrs else [])
      ++ [Opcode.close.code]

def Expr.encodeInstrs : Expr → List UInt8
  | .close _ => []
  | .cons head tail => head.encode ++ tail.encodeInstrs

end

/-- The instructions and the byte that closes them: an else where the terminator is one, and an end
in every other case. -/
def Expr.encode (e : Expr) : List UInt8 :=
  e.encodeInstrs ++
    [if e.terminator = .otherwise then Opcode.otherwise.code else Opcode.close.code]

def ValType.encodeAll (types : List ValType) : List UInt8 :=
  Output.vector (fun t : ValType => [t.tag]) types

def FuncType.encode (t : FuncType) : List UInt8 :=
  0x60 :: ValType.encodeAll t.params ++ ValType.encodeAll t.results

def Export.encode (e : Export) : List UInt8 :=
  Output.name e.name ++ e.kind.code :: Output.u32 e.index

def LocalEntry.encode (l : LocalEntry) : List UInt8 := Output.u32 l.count ++ [l.type.tag]

namespace FuncBody

def encodeContent (fb : FuncBody) : List UInt8 :=
  Output.vector LocalEntry.encode fb.locals ++ fb.body.encode

/-- A body behind the size it has as written; the declared size does not count. -/
def encode (fb : FuncBody) : List UInt8 := Output.sized fb.encodeContent

end FuncBody

namespace Section

def encodeContent : Section → List UInt8
  | types entries => Output.vector FuncType.encode entries
  | functions entries => Output.vector Output.u32 entries
  | exports entries => Output.vector Export.encode entries
  | code entries => Output.vector FuncBody.encode entries

def encode (s : Section) : List UInt8 := s.id.byte :: Output.sized s.encodeContent

end Section

namespace Module

def encodedMagic (m : Module) : FourBytes := if m.magic = .zero then .magic else m.magic

def encodedVersion (m : Module) : FourBytes := if m.version = .zero then .version1 else m.version

def encode (m : Module) : List UInt8 :=
  m.encodedMagic.toList ++ m.encodedVersion.toList ++ m.sections.flatMap Section.encode

end Module

end WasmScope

import WasmScope.Module.Instr

namespace WasmScope

structure FourBytes where
  b0 : UInt8
  b1 : UInt8
  b2 : UInt8
  b3 : UInt8
deriving DecidableEq, Repr

namespace FourBytes

def zero : FourBytes := ⟨0, 0, 0, 0⟩

def magic : FourBytes := ⟨0x00, 0x61, 0x73, 0x6D⟩

def version1 : FourBytes := ⟨1, 0, 0, 0⟩

def toList (q : FourBytes) : List UInt8 := [q.b0, q.b1, q.b2, q.b3]

def toNat (q : FourBytes) : Nat :=
  q.b0.toNat + q.b1.toNat * 0x100 + q.b2.toNat * 0x10000 + q.b3.toNat * 0x1000000

end FourBytes

def ValType.listText (types : List ValType) : String :=
  "[" ++ " ".intercalate (types.map name) ++ "]"

structure FuncType where
  params : List ValType
  results : List ValType
deriving DecidableEq, Repr

def FuncType.text (t : FuncType) : String :=
  ValType.listText t.params ++ " -> " ++ ValType.listText t.results

structure Export where
  name : String
  kind : ExportKind
  index : UInt32
deriving DecidableEq, Repr

structure LocalEntry where
  count : UInt32
  type : ValType
deriving DecidableEq, Repr

/-- One entry of a code section; `size` is the byte size that was declared for it. -/
structure FuncBody where
  size : UInt32
  locals : List LocalEntry
  body : Expr
deriving DecidableEq, Repr

/-- The number of locals that a body declares, in 64 bits. -/
def FuncBody.numLocals (fb : FuncBody) : UInt64 :=
  fb.locals.foldl (fun n l => n + l.count.toUInt64) 0

inductive Section where
  | types (entries : List FuncType)
  | functions (entries : List UInt32)
  | exports (entries : List Export)
  | code (entries : List FuncBody)
deriving DecidableEq, Repr

namespace Section

def id : Section → SectionId
  | types _ => .types
  | functions _ => .functions
  | exports _ => .exports
  | code _ => .code

def entries : Section → Nat
  | types entries => entries.length
  | functions entries => entries.length
  | exports entries => entries.length
  | code entries => entries.length

def typeEntries : Section → List FuncType
  | types entries => entries
  | _ => []

def functionEntries : Section → List UInt32
  | functions entries => entries
  | _ => []

def exportEntries : Section → List Export
  | exports entries => entries
  | _ => []

def bodyEntries : Section → List FuncBody
  | code entries => entries
  | _ => []

end Section

structure Module where
  magic : FourBytes
  version : FourBytes
  sections : List Section
deriving DecidableEq, Repr

namespace Module

def types (m : Module) : List FuncType := m.sections.flatMap Section.typeEntries

def functions (m : Module) : List UInt32 := m.sections.flatMap Section.functionEntries

def exports (m : Module) : List Export := m.sections.flatMap Section.exportEntries

def bodies (m : Module) : List FuncBody := m.sections.flatMap Section.bodyEntries

def sectionsWithId (m : Module) (id : SectionId) : List Section :=
  m.sections.filter fun s => s.id == id

end Module

end WasmScope

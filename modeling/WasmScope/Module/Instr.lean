import WasmScope.Module.Tag

namespace WasmScope

structure BlockKind where
  code : UInt8
deriving DecidableEq, Repr

namespace BlockKind

def empty : BlockKind := ⟨0⟩
def value : BlockKind := ⟨1⟩
def typeIndex : BlockKind := ⟨2⟩

end BlockKind

/-- The signature of a structured instruction: none, one result, or an entry of the type section.
A kind without a meaning counts as none. -/
structure BlockType where
  kind : BlockKind
  value : ValType
  typeIndex : Int32
deriving DecidableEq, Repr

namespace BlockType

def empty : BlockType := ⟨.empty, .unset, 0⟩
def ofValue (t : ValType) : BlockType := ⟨.value, t, 0⟩
def ofIndex (i : Int32) : BlockType := ⟨.typeIndex, .unset, i⟩

def text (bt : BlockType) : String :=
  match bt.kind.code with
  | 1 => "(result " ++ bt.value.name ++ ")"
  | 2 => "(type " ++ toString bt.typeIndex.toInt ++ ")"
  | _ => ""

end BlockType

inductive LocalAccess where
  | get
  | set
deriving DecidableEq, Repr

inductive BranchMode where
  | always
  | onTrue
deriving DecidableEq, Repr

inductive NumericOp where
  | eqz
  | eq
  | ltS
  | geS
  | add
  | remS
deriving DecidableEq, Repr

/-- Structured instructions with one nested expression: a branch to a block goes past its end, one
to a loop back to its start. -/
inductive BlockShape where
  | block
  | loop
deriving DecidableEq, Repr

mutual

inductive Instr where
  | localVar (access : LocalAccess) (index : UInt32)
  | const (value : Int32)
  | numeric (op : NumericOp)
  | branch (mode : BranchMode) (label : UInt32)
  | block (shape : BlockShape) (type : BlockType) (body : Expr)
  | cond (type : BlockType) (thn els : Expr)
deriving DecidableEq, Repr

/-- Instructions up to a terminator. -/
inductive Expr where
  | close (terminator : Opcode)
  | cons (head : Instr) (tail : Expr)
deriving DecidableEq, Repr

end

def LocalAccess.opcode : LocalAccess → Opcode
  | get => .localGet
  | set => .localSet

def BranchMode.opcode : BranchMode → Opcode
  | always => .br
  | onTrue => .brIf

def NumericOp.opcode : NumericOp → Opcode
  | eqz => .i32Eqz
  | eq => .i32Eq
  | ltS => .i32LtS
  | geS => .i32GeS
  | add => .i32Add
  | remS => .i32RemS

def BlockShape.opcode : BlockShape → Opcode
  | block => .block
  | loop => .loop

def Instr.opcode : Instr → Opcode
  | localVar access _ => access.opcode
  | const _ => .i32Const
  | numeric op => op.opcode
  | branch mode _ => mode.opcode
  | block shape _ _ => shape.opcode
  | cond _ _ _ => .cond

namespace Expr

def unset : Expr := .close .unset

instance : Inhabited Expr := ⟨unset⟩

def terminator : Expr → Opcode
  | close t => t
  | cons _ tail => tail.terminator

def instrs : Expr → List Instr
  | close _ => []
  | cons head tail => head :: tail.instrs

def isEmpty : Expr → Bool
  | close _ => true
  | cons _ _ => false

def length (e : Expr) : Nat := e.instrs.length

def ofInstrs (instrs : List Instr) (terminator : Opcode) : Expr :=
  instrs.foldr .cons (.close terminator)

def ofReversed (done : List Instr) (terminator : Opcode) : Expr :=
  done.foldl (fun e i => .cons i e) (.close terminator)

end Expr

/-- The conditional has an else branch: its first branch is closed by an else, or its second one
holds instructions. -/
def hasElseBranch (thn els : Expr) : Bool :=
  thn.terminator == .otherwise || !els.isEmpty

namespace Instr

def hasElse : Instr → Bool
  | cond _ thn _ => thn.terminator == .otherwise
  | _ => false

end Instr

end WasmScope

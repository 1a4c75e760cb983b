import WasmScope.Binary.Advance
import WasmScope.Decode.Types

namespace WasmScope

namespace Decode

/-- A structured instruction that is still open, with the instructions before it, last first. -/
inductive Frame where
  | block (shape : BlockShape) (type : BlockType) (before : List Instr)
  | thenBranch (type : BlockType) (before : List Instr)
  | elseBranch (type : BlockType) (thn : Expr) (before : List Instr)
deriving DecidableEq, Repr

/-- An expression being read: the open frames, innermost first, and the instructions read since the
innermost one was opened, last first. -/
structure Pending where
  frames : List Frame
  done : List Instr
deriving DecidableEq, Repr

inductive Progress where
  | more (p : Pending)
  | closed (e : Expr)
deriving DecidableEq, Repr

namespace Pending

def start : Pending := ⟨[], []⟩

def push (p : Pending) (i : Instr) : Pending := { p with done := i :: p.done }

def enter (p : Pending) (frame : List Instr → Frame) : Pending := ⟨frame p.done :: p.frames, []⟩

/-- The expression that an end closes here becomes part of the innermost open instruction. -/
def close (p : Pending) : Progress :=
  let e := Expr.ofReversed p.done .close
  match p.frames with
  | [] => .closed e
  | .block shape type before :: frames => .more ⟨frames, .block shape type e :: before⟩
  | .thenBranch type before :: frames => .more ⟨frames, .cond type e .unset :: before⟩
  | .elseBranch type thn before :: frames => .more ⟨frames, .cond type thn e :: before⟩

/-- An else closes a first branch, or the whole expression where nothing is open. -/
def otherwise (p : Pending) : Option Progress :=
  let e := Expr.ofReversed p.done .otherwise
  match p.frames with
  | [] => some (.closed e)
  | .thenBranch type before :: frames => some (.more ⟨.elseBranch type e before :: frames, []⟩)
  | _ => none

end Pending

inductive Form where
  | simple (i : Instr)
  | indexed (make : UInt32 → Instr)
  | constant (make : Int32 → Instr)
  | opening (frame : BlockType → List Instr → Frame)
  | otherwise
  | close
  | undefined

def form (code : UInt8) : Form :=
  match code with
  | 0x02 => .opening (.block .block)
  | 0x03 => .opening (.block .loop)
  | 0x04 => .opening .thenBranch
  | 0x05 => .otherwise
  | 0x0B => .close
  | 0x0C => .indexed (.branch .always)
  | 0x0D => .indexed (.branch .onTrue)
  | 0x20 => .indexed (.localVar .get)
  | 0x21 => .indexed (.localVar .set)
  | 0x41 => .constant .const
  | 0x45 => .simple (.numeric .eqz)
  | 0x46 => .simple (.numeric .eq)
  | 0x48 => .simple (.numeric .ltS)
  | 0x4E => .simple (.numeric .geS)
  | 0x6A => .simple (.numeric .add)
  | 0x6F => .simple (.numeric .remS)
  | _ => .undefined

/-- How deep instructions may nest: at most `limit` structured ones around each other, of which
`outer` are already open around the expression. -/
structure Nesting where
  limit : Nat
  outer : Nat := 0
deriving DecidableEq, Repr

def immediates (nesting : Nesting) (p : Pending) (position : Nat) (code : UInt8) :
    Reader Progress :=
  match form code with
  | .simple i => pure (.more (p.push i))
  | .indexed make => do
    let n ← Reader.u32
    pure (.more (p.push (make n)))
  | .constant make => do
    let n ← Reader.s32
    pure (.more (p.push (make n)))
  | .opening frame =>
    if nesting.limit ≤ nesting.outer + p.frames.length then
      Reader.fail (.nestingTooDeep position nesting.limit)
    else do
      let type ← Reader.blockType
      pure (.more (p.enter (frame type)))
  | .otherwise =>
    match p.otherwise with
    | some progress => pure progress
    | none => Reader.fail (.unexpectedElse position)
  | .close => pure p.close
  | .undefined => Reader.fail (.invalidOpcode position code)

def step (nesting : Nesting) (p : Pending) : Reader Progress := do
  let position ← Reader.position
  let code ← Reader.byte
  immediates nesting p position code

end Decode

namespace Reader

theorem advances_blockType : Advances 1 blockType := by
  intro c x rest hr
  unfold blockType at hr
  split at hr
  · cases hr
  · next lead rest' h =>
    split at hr
    · cases hr
      exact advances_byte c lead rest h
    · split at hr
      · cases hr
        exact advances_byte c lead rest h
      · split at hr
        · cases hr
        · next index rest'' h' =>
          split at hr
          · cases hr
          · cases hr
            exact advances_s32 c index rest h'

end Reader

namespace Decode

theorem advances_immediates (nesting : Nesting) (p : Pending) (position : Nat) (code : UInt8) :
    Reader.Advances 0 (immediates nesting p position code) := by
  unfold immediates
  split
  · exact Reader.advances_pure _
  · exact (Reader.advances_u32.mono (Nat.zero_le 1)).bind fun _ => Reader.advances_pure _
  · exact (Reader.advances_s32.mono (Nat.zero_le 1)).bind fun _ => Reader.advances_pure _
  · split
    · exact Reader.advances_fail 0 _
    · exact (Reader.advances_blockType.mono (Nat.zero_le 1)).bind fun _ => Reader.advances_pure _
  · split
    · exact Reader.advances_pure _
    · exact Reader.advances_fail 0 _
  · exact Reader.advances_pure _
  · exact Reader.advances_fail 0 _

theorem advances_step (nesting : Nesting) (p : Pending) :
    Reader.Advances 1 (step nesting p) :=
  Reader.advances_position.bind fun _ =>
    Reader.advances_byte.bind fun _ => advances_immediates nesting p _ _

def resume (nesting : Nesting) (p : Pending) (c : Cursor) : Except Defect (Expr × Cursor) :=
  match h : step nesting p c with
  | .error d => .error d
  | .ok (.closed e, rest) => .ok (e, rest)
  | .ok (.more p', rest) =>
    have : rest.unread.length < c.unread.length := (advances_step nesting p).shortens h
    resume nesting p' rest
termination_by c.unread.length

end Decode

namespace Reader

def expr (nesting : Decode.Nesting) : Reader Expr := Decode.resume nesting .start

def closedExpr (nesting : Decode.Nesting) : Reader Expr := do
  let e ← expr nesting
  let position ← position
  if e.terminator = .otherwise then fail (.unexpectedElse (position - 1)) else pure e

end Reader

def Expr.decode (limit : Nat) (code : List UInt8) : Except Defect Expr :=
  match Reader.closedExpr { limit } (.ofBytes code) with
  | .error d => .error d
  | .ok (e, rest) =>
    if rest.unread.isEmpty then .ok e
    else .error (.trailingBytes rest.position rest.unread.length)

end WasmScope

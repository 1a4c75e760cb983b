import WasmScope.Module.Instr

namespace WasmScope

mutual

def Instr.visits (descend : Instr → Bool) (depth : Nat) : Instr → List (Nat × Instr)
  | .block shape type body =>
    (depth, .block shape type body) ::
      if descend (.block shape type body) then body.visits descend (depth + 1) else []
  | .cond type thn els =>
    (depth, .cond type thn els) ::
      if descend (.cond type thn els) then
        thn.visits descend (depth + 1) ++ els.visits descend (depth + 1)
      else []
  | i => [(depth, i)]

def Expr.visits (descend : Instr → Bool) (depth : Nat) : Expr → List (Nat × Instr)
  | .close _ => []
  | .cons head tail => head.visits descend depth ++ tail.visits descend depth

end

mutual

/-- The instruction and those nested in it, with a state that each visit changes; the visit says
whether the walk goes on inside the instruction. -/
def Instr.walkWith {σ : Type} (visit : Nat → Instr → σ → Bool × σ) (depth : Nat) :
    Instr → σ → σ
  | .block shape type body, s =>
    match visit depth (.block shape type body) s with
    | (true, s) => body.walkWith visit (depth + 1) s
    | (false, s) => s
  | .cond type thn els, s =>
    match visit depth (.cond type thn els) s with
    | (true, s) => els.walkWith visit (depth + 1) (thn.walkWith visit (depth + 1) s)
    | (false, s) => s
  | i, s => (visit depth i s).2

def Expr.walkWith {σ : Type} (visit : Nat → Instr → σ → Bool × σ) (depth : Nat) : Expr → σ → σ
  | .close _, s => s
  | .cons head tail, s => tail.walkWith visit depth (head.walkWith visit depth s)

end

namespace Expr

def walk (e : Expr) (descend : Instr → Bool) : List (Nat × Instr) := e.visits descend 0

def walkAll (e : Expr) : List (Nat × Instr) := e.walk fun _ => true

/-- A visit that looks for the first fault: once there is one, nothing more is looked at. -/
def keepFirst {α : Type} (check : Nat → Instr → Option α) (depth : Nat) (i : Instr) :
    Option α → Bool × Option α
  | some fault => (false, some fault)
  | none =>
    let found := check depth i
    (found.isNone, found)

end Expr

end WasmScope

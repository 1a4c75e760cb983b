import WasmScope.Binary.Defect

namespace WasmScope

/-- The unread bytes of a region and the position of the first of them in the whole input. -/
structure Cursor where
  position : Nat
  unread : List UInt8
deriving DecidableEq, Repr

abbrev Reader := StateT Cursor (Except Defect)

/-- The list has at least `n` elements; no more than `n` of them are looked at. -/
def holds {α : Type} : Nat → List α → Bool
  | 0, _ => true
  | _ + 1, [] => false
  | n + 1, _ :: rest => holds n rest

@[simp] theorem holds_eq_true {α : Type} {n : Nat} {l : List α} :
    holds n l = true ↔ n ≤ l.length := by
  induction n generalizing l with
  | zero => simp [holds]
  | succ n ih => cases l <;> simp [holds, ih]

namespace Cursor

def ofBytes (data : List UInt8) : Cursor := ⟨0, data⟩

def advance (c : Cursor) (n : Nat) : Cursor := ⟨c.position + n, c.unread.drop n⟩

def underrun (c : Cursor) (want : Int) : Defect := .underrun c.position want c.unread.length

end Cursor

namespace Reader

def position : Reader Nat := fun c => .ok (c.position, c)

def fail {α : Type} (d : Defect) : Reader α := fun _ => .error d

def byte : Reader UInt8 := fun c =>
  match c.unread with
  | [] => .error (c.underrun 1)
  | b :: rest => .ok (b, ⟨c.position + 1, rest⟩)

/-- Exactly `n` bytes; a negative count is never there to read. -/
def bytes (n : Int) : Reader (List UInt8) := fun c =>
  if 0 ≤ n ∧ holds n.toNat c.unread = true then
    .ok (c.unread.take n.toNat, c.advance n.toNat)
  else .error (c.underrun n)

/-- A cursor of its own over the next `n` bytes, which are passed over. -/
def region (n : Int) : Reader Cursor := fun c =>
  match bytes n c with
  | .error d => .error d
  | .ok (data, rest) => .ok (⟨c.position, data⟩, rest)

/-- Values of `step` for the indices from `index` on, `n` of them, behind those already there. -/
@[specialize] def repeated {m : Type → Type} [Monad m] {α : Type} (step : Nat → m α) :
    Nat → Nat → List α → m (List α)
  | 0, _, done => pure done.reverse
  | n + 1, index, done => do
    let x ← step index
    repeated step n (index + 1) (x :: done)

end Reader

end WasmScope

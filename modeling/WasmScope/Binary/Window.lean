import WasmScope.Binary.Leb128

namespace WasmScope

/-- A region of the input: the position of its first byte, its bytes, and how many are read. -/
structure Window where
  base : Nat
  data : List UInt8
  offset : Nat
deriving DecidableEq, Repr

namespace Window

def openAt (base : Nat) (data : List UInt8) : Window := ⟨base, data, 0⟩

def ofBytes (data : List UInt8) : Window := openAt 0 data

def position (w : Window) : Nat := w.base + w.offset

def unread (w : Window) : List UInt8 := w.data.drop w.offset

def remaining (w : Window) : Nat := w.data.length - w.offset

def isExhausted (w : Window) : Bool := w.offset == w.data.length

def skip (w : Window) (n : Nat) : Window := { w with offset := w.offset + n }

def underrun (w : Window) (want : Int) : Defect := .underrun w.position want w.remaining

def reset? (w : Window) (offset : Int) : Option Window :=
  if 0 ≤ offset ∧ offset ≤ w.data.length then some { w with offset := offset.toNat } else none

def resetMessage : String := "binary: reset offset out of range"

end Window

/-- Reads of a window. A failure comes with the window that it leaves behind. -/
abbrev WindowReader := EStateM Defect Window

namespace WindowReader

variable {α ε : Type}

def offset : EStateM ε Window Nat := fun w => .ok w.offset w

def position : WindowReader Nat := fun w => .ok w.position w

def byte : WindowReader UInt8 := fun w =>
  match w.unread with
  | [] => .error (w.underrun 1) w
  | b :: _ => .ok b (w.skip 1)

def bytes (n : Int) : WindowReader (List UInt8) := fun w =>
  if n < 0 ∨ (w.remaining : Int) < n then .error (w.underrun n) w
  else .ok (w.unread.take n.toNat) (w.skip n.toNat)

def region (n : Int) : WindowReader Window := do
  let base ← position
  let data ← bytes n
  pure (.openAt base data)

/-- Where the read fails, the window goes back to the offset. -/
def orBackTo (start : Nat) (r : EStateM ε Window α) : EStateM ε Window α := fun w =>
  match r w with
  | .ok x w => .ok x w
  | .error e w => .error e { w with offset := start }

theorem remaining_of_byte {w after : Window} {b : UInt8} (h : byte w = .ok b after) :
    after.remaining < w.remaining := by
  unfold byte at h
  split at h
  · cases h
  · next hunread =>
    cases h
    have hlength := congrArg List.length hunread
    simp only [Window.unread, List.length_drop, List.length_cons] at hlength
    simp only [Window.remaining, Window.skip]
    omega

def groups (value count : Nat) (w : Window) : EStateM.Result Defect Window Leb128.Scan :=
  match h : byte w with
  | .error d after => .error d after
  | .ok b after =>
    let value := value + (b.toNat % 128) <<< (7 * count)
    if b.toNat < 128 then .ok ⟨value, count + 1, b, after.unread⟩ after
    else
      have := remaining_of_byte h
      groups value (count + 1) after
termination_by w.remaining

def leb128 (value : Leb128.Scan → α) : WindowReader α := do
  let start ← offset
  let s ← orBackTo start (groups 0 0)
  pure (value s)

def u32 : WindowReader UInt32 := leb128 Leb128.Scan.unsigned

def s32 : WindowReader Int32 := leb128 Leb128.Scan.signed

def name : WindowReader String := do
  let start ← offset
  let length ← u32
  orBackTo start do
    let position ← position
    let data ← bytes length.toNat
    match String.fromUTF8? data.toByteArray with
    | some s => pure s
    | none => throw (.invalidUtf8 position data)

/-- A count and that many elements. The errors of these are of any kind, into which the defects of a
count are turned. -/
def vector (ofDefect : Defect → ε) (element : EStateM ε Window α) :
    EStateM ε Window (List α) := do
  let start ← offset
  let count ← EStateM.adaptExcept ofDefect u32
  orBackTo start (Reader.repeated (fun _ => element) count.toNat 0 [])

end WindowReader

inductive Item where
  | byte
  | bytes (count : Int)
  | region (count : Int)
  | u32
  | s32
  | name
  | vector (element : Item)
deriving DecidableEq, Repr

inductive Datum where
  | byte (b : UInt8)
  | bytes (bs : List UInt8)
  | region (w : Window)
  | u32 (n : UInt32)
  | s32 (n : Int32)
  | name (s : String)
  | list (items : List Datum)
deriving Repr

def Item.read : Item → WindowReader Datum
  | byte => Datum.byte <$> WindowReader.byte
  | bytes count => Datum.bytes <$> WindowReader.bytes count
  | region count => Datum.region <$> WindowReader.region count
  | u32 => Datum.u32 <$> WindowReader.u32
  | s32 => Datum.s32 <$> WindowReader.s32
  | name => Datum.name <$> WindowReader.name
  | vector element => Datum.list <$> WindowReader.vector id element.read

inductive WindowOp where
  | read (item : Item)
  | enter (count : Int)
  | leave
  | reset (offset : Int)
deriving DecidableEq, Repr

inductive WindowAnswer where
  | done
  | value (d : Datum)
  | defect (d : Defect)
  | refused (message : String)
deriving Repr

/-- The topmost window and those it was opened from, innermost first. -/
structure WindowStack where
  top : Window
  below : List Window
deriving DecidableEq, Repr

namespace WindowStack

def ofBytes (data : List UInt8) : WindowStack := ⟨.ofBytes data, []⟩

/-- One operation on the topmost window. The last window cannot be left. -/
def step (s : WindowStack) : WindowOp → WindowAnswer × WindowStack
  | .read item =>
    match item.read s.top with
    | .error d top => (.defect d, { s with top })
    | .ok x top => (.value x, { s with top })
  | .enter count =>
    match WindowReader.region count s.top with
    | .error d top => (.defect d, { s with top })
    | .ok inner top => (.done, ⟨inner, top :: s.below⟩)
  | .leave =>
    match s.below with
    | [] => (.done, s)
    | top :: below => (.done, ⟨top, below⟩)
  | .reset offset =>
    match s.top.reset? offset with
    | none => (.refused Window.resetMessage, s)
    | some top => (.done, { s with top })

def run (s : WindowStack) (ops : List WindowOp) : WindowStack :=
  ops.foldl (fun s op => (s.step op).2) s

end WindowStack

end WasmScope

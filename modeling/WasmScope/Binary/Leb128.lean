import WasmScope.Binary.Cursor

namespace WasmScope

namespace Leb128

/-- An integer taken off a list of bytes: its groups put together, their number, the last byte and
the bytes after it. -/
structure Scan where
  value : Nat
  count : Nat
  last : UInt8
  rest : List UInt8
deriving DecidableEq, Repr

/-- Continues after `count` groups worth `value`; `none` when the bytes end inside the integer. -/
def scan (value count : Nat) : List UInt8 → Option Scan
  | [] => none
  | b :: rest =>
    let value := value + (b.toNat % 128) <<< (7 * count)
    if b.toNat < 128 then some ⟨value, count + 1, b, rest⟩
    else scan value (count + 1) rest

namespace Scan

def unsigned (s : Scan) : UInt32 := UInt32.ofNat s.value

/-- The lowest 32 bits, the sign being the highest bit of the last group. Groups that already
reach past bit 31 need no extension. -/
def signed (s : Scan) : Int32 :=
  if 7 * s.count < 32 ∧ 64 ≤ s.last.toNat % 128 then
    Int32.ofInt ((s.value : Int) - (1 <<< (7 * s.count) : Nat))
  else Int32.ofInt s.value

end Scan

def unsignedGroups : (more : Nat) → Nat → List UInt8
  | 0, n => [n.toUInt8]
  | more + 1, n =>
    if n < 128 then [n.toUInt8]
    else (n % 128 + 128).toUInt8 :: unsignedGroups more (n / 128)

/-- The groups of `n`, the last after at most `more` others. A group is the last one when what
remains is its sign alone. -/
def signedGroups : (more : Nat) → Int → List UInt8
  | 0, n => [(n % 128).toNat.toUInt8]
  | more + 1, n =>
    let group := (n % 128).toNat
    let above := n / 128
    if (above = 0 ∧ group < 64) ∨ (above = -1 ∧ 64 ≤ group) then [group.toUInt8]
    else (group + 128).toUInt8 :: signedGroups more above

end Leb128

namespace Reader

/-- An integer of any length, from its scan. Where it does not end, the read fails at the end of
the unread bytes. -/
def leb128 {α : Type} (value : Leb128.Scan → α) : Reader α := fun c =>
  match Leb128.scan 0 0 c.unread with
  | none => .error ((c.advance c.unread.length).underrun 1)
  | some s => .ok (value s, ⟨c.position + s.count, s.rest⟩)

def u32 : Reader UInt32 := leb128 Leb128.Scan.unsigned

def s32 : Reader Int32 := leb128 Leb128.Scan.signed

def name : Reader String := do
  let length ← u32
  let position ← position
  let data ← bytes length.toNat
  match String.fromUTF8? data.toByteArray with
  | some s => pure s
  | none => fail (.invalidUtf8 position data)

def vector {α : Type} (element : Reader α) : Reader (List α) := do
  let count ← u32
  repeated (fun _ => element) count.toNat 0 []

end Reader

end WasmScope

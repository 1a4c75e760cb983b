import WasmScope.Proofs.Binary.Window

namespace WasmScope

namespace WindowReader

def backTo (start : Nat) : WindowReader Unit := fun w => .ok () { w with offset := start }

/-- What follows the first byte of a block type, which stands at an offset and a position. A byte
that begins an index is read again, and an index that is negative is left unread. -/
def blockTypeBehind (start position : Nat) (lead : UInt8) : WindowReader BlockType :=
  if lead = Reader.emptyBlockTag then pure .empty
  else if (ValType.mk lead).isValid then pure (.ofValue ⟨lead⟩)
  else do
    backTo start
    let index ← s32
    if index < 0 then do
      backTo start
      throw (.invalidValType position lead)
    else pure (.ofIndex index)

def blockType : WindowReader BlockType := do
  let start ← offset
  let position ← position
  let lead ← byte
  blockTypeBehind start position lead

theorem blockType_eq (w : Window) :
    blockType w = (byte >>= blockTypeBehind w.offset w.position) w := rfl

theorem blockType_of_lead {w w' : Window} {lead : UInt8} (h : byte w = .ok lead w') :
    blockType w =
      if lead = Reader.emptyBlockTag then .ok .empty w'
      else if (ValType.mk lead).isValid then .ok (.ofValue ⟨lead⟩) w'
      else match s32 w with
        | .error d after => .error d after
        | .ok index after =>
          if index < 0 then
            .error (.invalidValType w.position lead) { after with offset := w.offset }
          else .ok (.ofIndex index) after := by
  obtain ⟨-, rfl⟩ := byte_eq_ok h
  rw [blockType_eq, bind_of_ok h, blockTypeBehind]
  split
  · rfl
  · split
    · rfl
    · -- going back over the first byte leads to the window as it was
      have hback : backTo w.offset (w.skip 1) = .ok () w := rfl
      refine (bind_of_ok hback).trans ?_
      cases hindex : s32 w with
      | error d after => exact bind_of_error hindex
      | ok index after =>
        refine (bind_of_ok hindex).trans ?_
        dsimp only
        split
        · rfl
        · rfl

theorem agrees_iff_cases {α : Type} {r : WindowReader α} {r' : Reader α} :
    Agrees r r' ↔ ∀ w,
      (∃ x k, k ≤ w.unread.length ∧ r' w.cursor = .ok (x, w.cursor.advance k) ∧
        r w = .ok x (w.skip k)) ∨
      ∃ d, r' w.cursor = .error d ∧ r w = .error d w := by
  constructor
  · intro h w
    cases hr : r' w.cursor with
    | ok p =>
      obtain ⟨k, hk, hc, hw⟩ := h.ok hr
      exact .inl ⟨p.1, k, hk, congrArg (fun c => Except.ok (p.1, c)) hc, hw⟩
    | error d => exact .inr ⟨d, rfl, h.error hr⟩
  · intro h
    constructor
    · intro w x c hr
      rcases h w with ⟨y, k, hk, hc, hw⟩ | ⟨d, hd, -⟩
      · cases hr.symm.trans hc
        exact ⟨k, hk, rfl, hw⟩
      · cases hr.symm.trans hd
    · intro w d hr
      rcases h w with ⟨y, k, -, hc, -⟩ | ⟨d', hd, hw⟩
      · cases hr.symm.trans hc
      · cases hr.symm.trans hd
        exact hw

theorem agrees_blockType : Agrees blockType Reader.blockType := by
  apply agrees_iff_cases.2
  intro w
  rcases agrees_iff_cases.1 agrees_byte w with ⟨lead, k, hk, hc, hw⟩ | ⟨d, hc, hw⟩
  · rw [blockType_of_lead hw, Reader.blockType, hc]
    dsimp only
    by_cases hempty : lead = Reader.emptyBlockTag
    · rw [if_pos hempty, if_pos hempty]
      exact .inl ⟨_, k, hk, rfl, rfl⟩
    rw [if_neg hempty, if_neg hempty]
    by_cases hvalue : (ValType.mk lead).isValid = true
    · rw [if_pos hvalue, if_pos hvalue]
      exact .inl ⟨_, k, hk, rfl, rfl⟩
    rw [if_neg hvalue, if_neg hvalue]
    rcases agrees_iff_cases.1 agrees_s32 w with ⟨index, j, hj, hc, hw⟩ | ⟨d, hc, hw⟩
    · rw [hc, hw]
      dsimp only
      by_cases hneg : index < 0
      · rw [if_pos hneg, if_pos hneg]
        exact .inr ⟨_, rfl, rfl⟩
      · rw [if_neg hneg, if_neg hneg]
        exact .inl ⟨_, j, hj, rfl, rfl⟩
    · rw [hc, hw]
      exact .inr ⟨d, rfl, rfl⟩
  · refine .inr ⟨d, ?_, ?_⟩
    · rw [Reader.blockType, hc]
    · rw [blockType_eq, bind_of_error hw]

/-- Where no short form begins, the sign of what 32 bits hold of the integer decides. -/
theorem blockType_of_groups {w : Window} {lead : UInt8} {back : List UInt8}
    (hunread : lead :: back <+: w.unread) (groups : Leb128.Groups (lead :: back))
    (hempty : lead ≠ 0x40) (hvalue : ValType.isValid ⟨lead⟩ = false) :
    let index := Int32.ofInt (Leb128.signedValue (lead :: back))
    (0 ≤ index.toInt → blockType w = .ok (.ofIndex index) (w.skip (lead :: back).length)) ∧
      (index.toInt < 0 → blockType w = .error (.invalidValType w.position lead) w) := by
  intro index
  have hindex : s32 w = .ok index (w.skip (lead :: back).length) :=
    s32_eq_ok_iff.2 ⟨_, ⟨groups, rfl⟩, hunread, rfl⟩
  have hlead : byte w = .ok lead (w.skip 1) := by
    apply (agrees_byte.eq_ok_iff (F := fun _ bs b => bs = [b]) fun _ => Reader.reads_byte _).2
    exact ⟨[lead], rfl, (List.prefix_append [lead] back).trans hunread, rfl⟩
  have hnot : ¬ ValType.isValid ⟨lead⟩ = true := by
    rw [hvalue]
    exact Bool.false_ne_true
  have hsign : index < 0 ↔ index.toInt < 0 := Int32.lt_iff_toInt_lt
  have hread := blockType_of_lead hlead
  simp only [Reader.emptyBlockTag, if_neg hempty, if_neg hnot, hindex] at hread
  constructor
  · intro hnat
    rw [hread, if_neg (mt hsign.1 (Int.not_lt.2 hnat))]
  · intro hneg
    rw [hread, if_pos (hsign.2 hneg)]
    rfl

end WindowReader

namespace Leb128

theorem toInt_ofInt_wide {v : Int} (hmin : -2 ^ 32 ≤ v) (hmax : v < 2 ^ 32) :
    (v < -2 ^ 31 → (Int32.ofInt v).toInt = v + 2 ^ 32) ∧
      (-2 ^ 31 ≤ v → v < 2 ^ 31 → (Int32.ofInt v).toInt = v) ∧
      (2 ^ 31 ≤ v → (Int32.ofInt v).toInt = v - 2 ^ 32) := by
  have hsize : ((Int32.size : Nat) : Int) = 4294967296 := rfl
  rw [Int32.toInt_ofInt, Int.bmod, hsize]
  norm_num at hmin hmax ⊢
  refine ⟨fun h => ?_, fun h h' => ?_, fun h => ?_⟩
  · split <;> omega
  · split <;> omega
  · split <;> omega

end Leb128

namespace WindowReader

/-- A signed integer of 33 bits as a block type, read from a window as the decoder reads it. From 0
on and below 2³¹ it is the index; below 0 and from 2³¹ on it is refused at its first byte, and the
window stays where it is. But an integer below -2³¹ has lost its sign with its highest bit, and is
taken for the index 2³² above it. -/
theorem blockType_signed {w : Window} {lead : UInt8} {back : List UInt8}
    (hunread : lead :: back <+: w.unread) (groups : Leb128.Groups (lead :: back))
    (hmin : -2 ^ 32 ≤ Leb128.signedValue (lead :: back))
    (hmax : Leb128.signedValue (lead :: back) < 2 ^ 32) (hempty : lead ≠ 0x40)
    (hvalue : ValType.isValid ⟨lead⟩ = false) :
    let v := Leb128.signedValue (lead :: back)
    Agrees blockType Reader.blockType ∧
      (0 ≤ v → v < 2 ^ 31 → ∃ i : Int32, i.toInt = v ∧
        blockType w = .ok (.ofIndex i) (w.skip (lead :: back).length)) ∧
      (-2 ^ 31 ≤ v → v < 0 ∨ 2 ^ 31 ≤ v →
        blockType w = .error (.invalidValType w.position lead) w) ∧
      (v < -2 ^ 31 → ∃ i : Int32, i.toInt = v + 2 ^ 32 ∧
        blockType w = .ok (.ofIndex i) (w.skip (lead :: back).length)) := by
  intro v
  obtain ⟨haccepts, hrefuses⟩ := blockType_of_groups hunread groups hempty hvalue
  obtain ⟨hbelow, hwithin, habove⟩ := Leb128.toInt_ofInt_wide hmin hmax
  refine ⟨agrees_blockType, ?_, ?_, ?_⟩
  · intro hnat hlt
    have hindex := hwithin (by omega) hlt
    exact ⟨_, hindex, haccepts (by omega)⟩
  · intro hge hrefused
    apply hrefuses
    rcases hrefused with hneg | hlarge
    · have hindex := hwithin hge (by omega)
      omega
    · have hindex := habove hlarge
      omega
  · intro hlt
    have hindex := hbelow hlt
    exact ⟨_, hindex, haccepts (by omega)⟩

/-- The least integer of 33 bits, behind the code of a block: the first type is taken for it. -/
theorem blockType_signed_least :
    let w : Window := ⟨0, [0x02, 0x80, 0x80, 0x80, 0x80, 0x70, 0x0B, 0x0B], 1⟩
    Leb128.signedValue [0x80, 0x80, 0x80, 0x80, 0x70] = -2 ^ 32 ∧
      (∃ i : Int32, i.toInt = 0 ∧ blockType w = .ok (.ofIndex i) (w.skip 5)) ∧
      blockType w ≠ .error (.invalidValType 1 0x80) w := by
  intro w
  have hv : Leb128.signedValue [0x80, 0x80, 0x80, 0x80, 0x70] = -2 ^ 32 := by decide
  have groups : Leb128.Groups [0x80, 0x80, 0x80, 0x80, 0x70] :=
    .more (by decide) (.more (by decide) (.more (by decide) (.more (by decide)
      (.last (by decide)))))
  obtain ⟨-, -, -, hbelow⟩ := blockType_signed (w := w) ⟨[0x0B, 0x0B], rfl⟩ groups
    (by rw [hv]) (by rw [hv]; decide) (by decide) (by decide)
  obtain ⟨i, hi, hread⟩ := hbelow (by rw [hv]; decide)
  refine ⟨hv, ⟨i, hi.trans (by rw [hv]; rfl), hread⟩, ?_⟩
  rw [hread]
  exact nofun

end WindowReader

end WasmScope

import Mathlib.Algebra.BigOperators.Fin
import Mathlib.Data.Int.ModEq
import WasmScope.Proofs.Binary.Window

namespace WasmScope

namespace Leb128

theorem unsignedValue_eq_sum (bs : List UInt8) :
    unsignedValue bs = ∑ i : Fin bs.length, bs[i].toNat % 128 * 2 ^ (7 * i.val) := by
  induction bs with
  | nil => rfl
  | cons b bs ih =>
    have hweight (i : Fin bs.length) : 128 * (bs[i].toNat % 128 * 2 ^ (7 * i.val)) =
        bs[i].toNat % 128 * 2 ^ (7 * i.succ.val) := by
      rw [Fin.val_succ, Nat.mul_add, pow_add]
      ring
    calc unsignedValue (b :: bs)
        = b.toNat % 128 + 128 * ∑ i : Fin bs.length, bs[i].toNat % 128 * 2 ^ (7 * i.val) := by
          rw [unsignedValue, ih]
      _ = b.toNat % 128 + ∑ i : Fin bs.length, bs[i].toNat % 128 * 2 ^ (7 * i.succ.val) := by
          rw [Finset.mul_sum, Finset.sum_congr rfl fun i _ => hweight i]
      _ = ∑ i : Fin (b :: bs).length, (b :: bs)[i].toNat % 128 * 2 ^ (7 * i.val) := by
          refine Eq.trans ?_ (Fin.sum_univ_succ _).symm
          simp

/-- The sign of the last group is that of the whole in two's complement. -/
theorem Groups.toInt_ofNat {bs : List UInt8} (h : Groups bs) :
    (BitVec.ofNat (7 * bs.length) (unsignedValue bs)).toInt = signedValue bs := by
  have hpow : 2 ^ (7 * bs.length) = 2 * (64 * 128 ^ (bs.length - 1)) := by
    obtain ⟨n, hn⟩ := Nat.exists_eq_add_of_le' h.length_pos
    rw [hn, Nat.add_sub_cancel, pow_mul, pow_succ]
    norm_num
    ring
  have hperiod : (128 ^ bs.length : Int) = ((2 ^ (7 * bs.length) : Nat) : Int) := by
    rw [pow_mul]
    norm_num
  obtain ⟨hmin, hmax⟩ := h.signedValue_bounds
  have hvalue := h.signedValue_eq (List.getLast?_eq_some_getLast h.ne_nil)
  -- both are the same residue, and the signed one is the balanced representative
  have hresidue : Int.bmod (unsignedValue bs) (2 ^ (7 * bs.length)) =
      Int.bmod (signedValue bs) (2 ^ (7 * bs.length)) := by
    rw [hvalue, hperiod]
    split
    · rw [Int.sub_bmod_right]
    · rw [Int.sub_zero]
  rw [BitVec.toInt_ofNat', hresidue]
  apply Int.bmod_eq_of_le
  · rw [hpow]
    push_cast
    omega
  · rw [hpow]
    push_cast
    omega

theorem scan_eq_none_iff {value count : Nat} {bytes : List UInt8} :
    scan value count bytes = none ↔ ∀ b ∈ bytes, 128 ≤ b.toNat := by
  induction bytes generalizing value count with
  | nil => simp [scan]
  | cons b bytes ih =>
    rw [scan, List.forall_mem_cons]
    split
    · next hlast =>
      constructor
      · intro h
        cases h
      · intro h
        omega
    · next hmore => exact ih.trans (and_iff_right (by omega)).symm

theorem unsignedGroups_of_le {k more n : Nat} (h : n < 128 ^ (k + 1)) (hle : k ≤ more) :
    unsignedGroups more n = unsignedGroups k n := by
  induction k generalizing more n with
  | zero =>
    cases more with
    | zero => rfl
    | succ more =>
      rw [unsignedGroups.eq_2, if_pos (by simpa using h), unsignedGroups]
  | succ k ih =>
    obtain ⟨more, rfl⟩ := Nat.exists_eq_add_of_le' (Nat.zero_lt_of_lt hle)
    rw [pow_succ] at h
    rw [unsignedGroups, unsignedGroups, ih (by omega) (by omega)]

theorem signedGroups_of_le {k more : Nat} {n : Int} (hl : -(64 * 128 ^ k) ≤ n)
    (hu : n < 64 * 128 ^ k) (hle : k ≤ more) : signedGroups more n = signedGroups k n := by
  induction k generalizing more n with
  | zero =>
    cases more with
    | zero => rfl
    | succ more =>
      rw [pow_zero] at hl hu
      rw [signedGroups.eq_2, if_pos (by omega), signedGroups]
  | succ k ih =>
    obtain ⟨more, rfl⟩ := Nat.exists_eq_add_of_le' (Nat.zero_lt_of_lt hle)
    rw [pow_succ] at hl hu
    rw [signedGroups, signedGroups, ih (by omega) (by omega) (by omega)]

end Leb128

namespace WindowReader

variable {w : Window}

theorem leb128_of_unended {α : Type} (value : Leb128.Scan → α) (hw : w.offset ≤ w.data.length)
    (h : ∀ b ∈ w.unread, 128 ≤ b.toNat) :
    leb128 value w = .error (.underrun (w.base + w.data.length) 1 0) w := by
  have hscan : Leb128.scan 0 0 w.unread = none := Leb128.scan_eq_none_iff.2 h
  have hend : w.position + w.unread.length = w.base + w.data.length := by
    rw [Window.length_unread, Window.remaining, Window.position]
    omega
  apply (agrees_leb128 value).error
  rw [Reader.leb128, Window.cursor, hscan]
  dsimp only
  rw [Cursor.underrun, Cursor.position_advance, Cursor.unread_advance, List.drop_length, hend]
  rfl

/-- Unsigned integers at any place of a region. Where the unread bytes begin with the groups of an
integer, the read gives their number in base 128 modulo 2³² and moves behind them; where none of the
unread bytes is a last one, it runs into the end of the region and stays. What is written for an
integer, which takes no further group where more are allowed, is read as that integer, whatever
follows it; and no read that gives the integer moves by fewer bytes. -/
theorem u32_exact (hw : w.offset ≤ w.data.length) :
    Agrees u32 Reader.u32 ∧
      (∀ bs, Leb128.Groups bs → bs <+: w.unread → ∃ n, u32 w = .ok n (w.skip bs.length) ∧
        n.toNat = (∑ i : Fin bs.length, bs[i].toNat % 128 * 2 ^ (7 * i.val)) % 2 ^ 32) ∧
      ((∀ b ∈ w.unread, 128 ≤ b.toNat) → ∃ d, u32 w = .error d w ∧
        d.report = .bufferUnderrun (w.base + w.data.length : Nat) 1 0) ∧
      (∀ n rest, w.unread = Output.u32 n ++ rest →
        u32 w = .ok n (w.skip (Output.u32 n).length)) ∧
      (∀ n more, 4 ≤ more → Leb128.unsignedGroups more n.toNat = Output.u32 n) ∧
      ∀ n w', u32 w = .ok n w' →
        w.offset + (Output.u32 n).length ≤ w'.offset ∧ w'.offset ≤ w.data.length := by
  refine ⟨agrees_u32, ?_, ?_, ?_, ?_, ?_⟩
  · intro bs groups hbs
    refine ⟨_, u32_eq_ok_iff.2 ⟨bs, ⟨groups, rfl⟩, hbs, rfl⟩, ?_⟩
    rw [UInt32.toNat_ofNat', Leb128.unsignedValue_eq_sum]
  · intro h
    exact ⟨_, leb128_of_unended _ hw h, rfl⟩
  · intro n rest hunread
    exact u32_eq_ok_iff.2 ⟨_, Leb128.unsigned_u32 n, ⟨rest, hunread.symm⟩, rfl⟩
  · intro n more hmore
    have hn := n.toNat_lt
    exact Leb128.unsignedGroups_of_le (by norm_num; omega) hmore
  · intro n w' hread
    obtain ⟨bs, hn, hbs, rfl⟩ := u32_eq_ok_iff.1 hread
    exact ⟨Nat.add_le_add_left (hn.length_le (UInt32.le_refl n)) _, Window.offset_add_le hw hbs⟩

/-- Six groups, of which the sixth and the three highest bits of the fifth are past bit 31; and a
region that ends inside an integer. -/
theorem u32_exact_cut :
    let w : Window := ⟨2, [0xAA, 0x81, 0x80, 0x80, 0x80, 0xF0, 0x7F, 0x05], 1⟩
    let short : Window := ⟨2, [0xAA, 0x81, 0x80], 1⟩
    (∃ n, u32 w = .ok n (w.skip 6) ∧ n.toNat = 1 ∧ (Output.u32 n).length ≤ 6) ∧
      ∃ d, u32 short = .error d short ∧ d.report = .bufferUnderrun 5 1 0 := by
  intro w short
  obtain ⟨-, hvalue, -, -, -, hleast⟩ := u32_exact (w := w) (by decide)
  obtain ⟨-, -, hunended, -, -, -⟩ := u32_exact (w := short) (by decide)
  have groups : Leb128.Groups [0x81, 0x80, 0x80, 0x80, 0xF0, 0x7F] :=
    .more (by decide) (.more (by decide) (.more (by decide) (.more (by decide)
      (.more (by decide) (.last (by decide))))))
  obtain ⟨n, hread, hn⟩ := hvalue _ groups ⟨[0x05], rfl⟩
  have hmoved : 1 + (Output.u32 n).length ≤ 1 + 6 := (hleast n _ hread).1
  have hhigh : ∀ b ∈ short.unread, 128 ≤ b.toNat :=
    List.forall_mem_cons.2 ⟨by decide, List.forall_mem_singleton.2 (by decide)⟩
  exact ⟨⟨n, hread, hn.trans (by decide), by omega⟩, hunended hhigh⟩

/-- Signed integers at any place of a region. Where the unread bytes begin with the groups of an
integer, `n` of them, the read gives what 32 bits hold of their `7 * n` bits in two's complement and
moves behind them; where none of the unread bytes is a last one, it runs into the end of the region
and stays. What is written for an integer is at most five bytes long, also where more groups are
allowed, and is read as that integer, whatever follows it; and no read that gives the integer moves
by fewer bytes. -/
theorem s32_exact (hw : w.offset ≤ w.data.length) :
    Agrees s32 Reader.s32 ∧
      (∀ bs, Leb128.Groups bs → bs <+: w.unread → ∃ n, s32 w = .ok n (w.skip bs.length) ∧
        n.toInt ≡ (BitVec.ofNat (7 * bs.length)
          (∑ i : Fin bs.length, bs[i].toNat % 128 * 2 ^ (7 * i.val))).toInt [ZMOD 2 ^ 32]) ∧
      ((∀ b ∈ w.unread, 128 ≤ b.toNat) → ∃ d, s32 w = .error d w ∧
        d.report = .bufferUnderrun (w.base + w.data.length : Nat) 1 0) ∧
      (∀ n rest, w.unread = Output.s32 n ++ rest →
        s32 w = .ok n (w.skip (Output.s32 n).length)) ∧
      (∀ n, (Output.s32 n).length ≤ 5 ∧
        ∀ more, 4 ≤ more → Leb128.signedGroups more n.toInt = Output.s32 n) ∧
      ∀ n w', s32 w = .ok n w' →
        w.offset + (Output.s32 n).length ≤ w'.offset ∧ w'.offset ≤ w.data.length := by
  refine ⟨agrees_s32, ?_, ?_, ?_, ?_, ?_⟩
  · intro bs groups hbs
    refine ⟨_, s32_eq_ok_iff.2 ⟨bs, ⟨groups, rfl⟩, hbs, rfl⟩, ?_⟩
    rw [← Leb128.unsignedValue_eq_sum, groups.toInt_ofNat, Int32.toInt_ofInt]
    exact Int.bmod_emod
  · intro h
    exact ⟨_, leb128_of_unended _ hw h, rfl⟩
  · intro n rest hunread
    exact s32_eq_ok_iff.2 ⟨_, Leb128.signed_s32 n, ⟨rest, hunread.symm⟩, rfl⟩
  · intro n
    have hmin := n.le_toInt
    have hmax := n.toInt_lt
    refine ⟨Leb128.length_signedGroups_le_more 4 _, fun more hmore => ?_⟩
    exact Leb128.signedGroups_of_le (by norm_num; omega) (by norm_num; omega) hmore
  · intro n w' hread
    obtain ⟨bs, hn, hbs, rfl⟩ := s32_eq_ok_iff.1 hread
    exact ⟨Nat.add_le_add_left hn.length_le _, Window.offset_add_le hw hbs⟩

/-- The number 2³¹ in five groups, which 32 bits hold as the least integer; and a region that ends
inside an integer. -/
theorem s32_exact_wrapped :
    let w : Window := ⟨2, [0xAA, 0x80, 0x80, 0x80, 0x80, 0x08, 0x05], 1⟩
    let short : Window := ⟨2, [0xAA, 0x81, 0x80], 1⟩
    (∃ n, s32 w = .ok n (w.skip 5) ∧ n.toInt = -2 ^ 31 ∧ (Output.s32 n).length ≤ 5) ∧
      ∃ d, s32 short = .error d short ∧ d.report = .bufferUnderrun 5 1 0 := by
  intro w short
  obtain ⟨-, hvalue, -, -, hlength, -⟩ := s32_exact (w := w) (by decide)
  obtain ⟨-, -, hunended, -, -, -⟩ := s32_exact (w := short) (by decide)
  have groups : Leb128.Groups [0x80, 0x80, 0x80, 0x80, 0x08] :=
    .more (by decide) (.more (by decide) (.more (by decide) (.more (by decide)
      (.last (by decide)))))
  obtain ⟨n, hread, hn⟩ := hvalue _ groups ⟨[0x05], rfl⟩
  have hresidue : n.toInt % 2 ^ 32 = 2 ^ 31 := hn.eq.trans (by decide)
  have hmin := n.le_toInt
  have hmax := n.toInt_lt
  have hhigh : ∀ b ∈ short.unread, 128 ≤ b.toNat :=
    List.forall_mem_cons.2 ⟨by decide, List.forall_mem_singleton.2 (by decide)⟩
  exact ⟨⟨n, hread, by omega, (hlength n).1⟩, hunended hhigh⟩

end WindowReader

end WasmScope

import Mathlib.Tactic.Ring
import WasmScope.Binary.Output
import WasmScope.Proofs.Binary.Format

namespace WasmScope

namespace Leb128

/-- The bytes of one integer: every byte but the last has its high bit set. -/
inductive Groups : List UInt8 → Prop
  | last {b : UInt8} (low : b.toNat < 128) : Groups [b]
  | more {b : UInt8} {bs : List UInt8} (high : 128 ≤ b.toNat) (tail : Groups bs) :
      Groups (b :: bs)

/-- The number that the low seven bits of the bytes make up, the first byte lowest. -/
def unsignedValue : List UInt8 → Nat
  | [] => 0
  | b :: bs => b.toNat % 128 + 128 * unsignedValue bs

/-- The same bits in two's complement: the highest bit of the last group is the sign. -/
def signedValue : List UInt8 → Int
  | [] => 0
  | [b] => if b.toNat % 128 < 64 then b.toNat % 128 else b.toNat % 128 - 128
  | b :: b' :: bs => b.toNat % 128 + 128 * signedValue (b' :: bs)

/-- An unsigned integer in any number of groups, of which the lowest 32 bits count. -/
def Unsigned : Format UInt32 := fun bs n => Groups bs ∧ n = UInt32.ofNat (unsignedValue bs)

def Signed : Format Int32 := fun bs n => Groups bs ∧ n = Int32.ofInt (signedValue bs)

theorem Groups.ne_nil {bs : List UInt8} (h : Groups bs) : bs ≠ [] := by
  cases h <;> exact List.cons_ne_nil _ _

theorem Groups.length_pos {bs : List UInt8} (h : Groups bs) : 0 < bs.length :=
  List.length_pos_iff.2 h.ne_nil

theorem signedValue_cons {b : UInt8} {bs : List UInt8} (h : Groups bs) :
    signedValue (b :: bs) = b.toNat % 128 + 128 * signedValue bs := by
  cases h <;> rfl

theorem unsignedValue_lt (bs : List UInt8) : unsignedValue bs < 128 ^ bs.length := by
  induction bs with
  | nil => exact Nat.one_pos
  | cons b bs ih =>
    rw [unsignedValue, List.length_cons, pow_succ]
    omega

theorem Groups.signedValue_bounds {bs : List UInt8} (h : Groups bs) :
    -(64 * 128 ^ (bs.length - 1) : Int) ≤ signedValue bs ∧
      signedValue bs < 64 * 128 ^ (bs.length - 1) := by
  induction h with
  | @last b low =>
    simp only [signedValue, List.length_singleton, Nat.sub_self, pow_zero]
    split <;> omega
  | @more b bs high tail ih =>
    have hlen : (b :: bs).length - 1 = bs.length - 1 + 1 := by
      have hpos := tail.length_pos
      rw [List.length_cons]
      omega
    rw [signedValue_cons tail, hlen, pow_succ]
    omega

theorem Groups.signedValue_eq {bs : List UInt8} (h : Groups bs) {last : UInt8}
    (hl : bs.getLast? = some last) :
    signedValue bs =
      unsignedValue bs - if 64 ≤ last.toNat % 128 then 128 ^ bs.length else 0 := by
  induction h with
  | @last b low =>
    obtain rfl : b = last := by simpa using hl
    simp only [signedValue, unsignedValue, List.length_singleton, pow_one]
    split <;> split <;> omega
  | @more b bs high tail ih =>
    rw [List.getLast?_cons_of_ne_nil tail.ne_nil] at hl
    rw [signedValue_cons tail, ih hl, unsignedValue, List.length_cons, pow_succ]
    push_cast
    split <;> omega

theorem scan_eq_some_iff {value count : Nat} {bytes : List UInt8} {s : Scan} :
    scan value count bytes = some s ↔ ∃ bs, Groups bs ∧ bytes = bs ++ s.rest ∧
      s.count = count + bs.length ∧ s.value = value + unsignedValue bs * 128 ^ count ∧
      bs.getLast? = some s.last := by
  have hshift (b : UInt8) (count : Nat) :
      (b.toNat % 128) <<< (7 * count) = b.toNat % 128 * 128 ^ count := by
    rw [Nat.shiftLeft_eq, pow_mul]
    norm_num
  induction bytes generalizing value count with
  | nil =>
    constructor
    · intro h
      cases h
    · intro hw
      obtain ⟨bs, hg, hb, -⟩ := hw
      exact absurd (List.append_eq_nil_iff.1 hb.symm).1 hg.ne_nil
  | cons b tail ih =>
    rw [scan, hshift]
    split
    · next hlow =>
      constructor
      · intro h
        cases h
        exact ⟨[b], .last hlow, rfl, rfl, by simp [unsignedValue], rfl⟩
      · intro hw
        obtain ⟨bs, hg, hb, hc, hv, hl⟩ := hw
        cases hg with
        | last low =>
          obtain ⟨rfl, rfl⟩ := List.cons.inj hb
          cases hl
          cases s
          simp_all [unsignedValue]
        | more high tail =>
          obtain ⟨rfl, rfl⟩ := List.cons.inj hb
          omega
    · next hhigh =>
      refine ih.trans ?_
      constructor
      · intro hw
        obtain ⟨bs, hg, rfl, hc, hv, hl⟩ := hw
        refine ⟨b :: bs, .more (by omega) hg, rfl, ?_, ?_, ?_⟩
        · rw [hc, List.length_cons]
          omega
        · rw [hv, unsignedValue, pow_succ]
          ring
        · rw [List.getLast?_cons_of_ne_nil hg.ne_nil, hl]
      · intro hw
        obtain ⟨bs, hg, hb, hc, hv, hl⟩ := hw
        cases hg with
        | last low =>
          obtain ⟨rfl, -⟩ := List.cons.inj hb
          omega
        | @more _ bs high hg =>
          obtain ⟨rfl, rfl⟩ := List.cons.inj hb
          refine ⟨bs, hg, rfl, ?_, ?_, ?_⟩
          · rw [hc, List.length_cons]
            omega
          · rw [hv, unsignedValue, pow_succ]
            ring
          · rwa [List.getLast?_cons_of_ne_nil hg.ne_nil] at hl

theorem ofInt_sub_pow (v : Int) {n : Nat} (hn : 5 ≤ n) :
    Int32.ofInt (v - 128 ^ n) = Int32.ofInt v := by
  obtain ⟨k, rfl⟩ := Nat.exists_eq_add_of_le hn
  have hsize : (128 ^ (5 + k) : Int) = 8 * 128 ^ k * Int32.size := by
    rw [pow_add, show ((Int32.size : Nat) : Int) = 4294967296 from rfl]
    ring
  apply Int32.toInt.inj
  rw [Int32.toInt_ofInt, Int32.toInt_ofInt, hsize, Int.sub_mul_bmod_self_right]

theorem signed_eq {s : Scan} {bs : List UInt8} (h : Groups bs) (hc : s.count = bs.length)
    (hv : s.value = unsignedValue bs) (hl : bs.getLast? = some s.last) :
    s.signed = Int32.ofInt (signedValue bs) := by
  have hpow : ((1 <<< (7 * bs.length) : Nat) : Int) = 128 ^ bs.length := by
    rw [Nat.shiftLeft_eq, one_mul, pow_mul]
    norm_num
  rw [h.signedValue_eq hl, Scan.signed, hc, hv, hpow]
  by_cases hsign : 64 ≤ s.last.toNat % 128
  · rw [if_pos hsign]
    by_cases hlen : 7 * bs.length < 32
    · rw [if_pos ⟨hlen, hsign⟩]
    · rw [if_neg fun hh => hlen hh.1, ofInt_sub_pow _ (by omega)]
  · rw [if_neg fun hh => hsign hh.2, if_neg hsign, Int.sub_zero]

end Leb128

namespace Reader

theorem reads_leb128 {α : Type} {value : Leb128.Scan → α} {meaning : List UInt8 → α}
    (h : ∀ (s : Leb128.Scan) (bs : List UInt8), Leb128.Groups bs → s.count = bs.length →
      s.value = Leb128.unsignedValue bs → bs.getLast? = some s.last → value s = meaning bs) :
    Reads (leb128 value) fun bs x => Leb128.Groups bs ∧ x = meaning bs := by
  intro c x rest
  unfold leb128
  constructor
  · intro hr
    split at hr
    · cases hr
    · next s hs =>
      obtain ⟨bs, hg, hu, hc, hv, hl⟩ := Leb128.scan_eq_some_iff.1 hs
      rw [Nat.zero_add] at hc
      rw [pow_zero, Nat.mul_one, Nat.zero_add] at hv
      cases hr
      exact ⟨bs, ⟨hg, h s bs hg hc hv hl⟩, hu, congrArg (c.position + ·) hc⟩
  · intro hw
    obtain ⟨bs, ⟨hg, rfl⟩, hs⟩ := hw
    have hlast := List.getLast?_eq_some_getLast hg.ne_nil
    have hscan : Leb128.scan 0 0 c.unread =
        some ⟨Leb128.unsignedValue bs, bs.length, bs.getLast hg.ne_nil, rest.unread⟩ :=
      Leb128.scan_eq_some_iff.2 ⟨bs, hg, hs.unread, by simp, by simp, hlast⟩
    rw [hscan]
    dsimp only
    rw [h _ bs hg rfl rfl hlast]
    have hrest : c.Spans bs ⟨c.position + bs.length, rest.unread⟩ := ⟨hs.unread, rfl⟩
    rw [hrest.unique hs]

theorem reads_u32 : Reads u32 Leb128.Unsigned :=
  reads_leb128 fun _ _ _ _ hv _ => congrArg UInt32.ofNat hv

theorem reads_s32 : Reads s32 Leb128.Signed :=
  reads_leb128 fun _ _ hg hc hv hl => Leb128.signed_eq hg hc hv hl

end Reader

namespace Leb128

theorem toNat_toUInt8 {n : Nat} (h : n < 256) : n.toUInt8.toNat = n :=
  UInt8.toNat_ofNat_of_lt' h

theorem unsignedGroups_groups (more : Nat) {n : Nat} (h : n < 128 ^ (more + 1)) :
    Groups (unsignedGroups more n) ∧ unsignedValue (unsignedGroups more n) = n := by
  induction more generalizing n with
  | zero =>
    rw [Nat.zero_add, pow_one] at h
    have hb : n.toUInt8.toNat = n := toNat_toUInt8 (by omega)
    refine ⟨.last (by omega), ?_⟩
    simp only [unsignedGroups, unsignedValue, hb]
    omega
  | succ more ih =>
    rw [unsignedGroups]
    split
    · next hlt =>
      have hb : n.toUInt8.toNat = n := toNat_toUInt8 (by omega)
      refine ⟨.last (by omega), ?_⟩
      simp only [unsignedValue, hb]
      omega
    · have hb : (n % 128 + 128).toUInt8.toNat = n % 128 + 128 := toNat_toUInt8 (by omega)
      rw [pow_succ] at h
      obtain ⟨hg, hv⟩ := ih (n := n / 128) (by omega)
      refine ⟨.more (by omega) hg, ?_⟩
      rw [unsignedValue, hv, hb]
      omega

theorem length_unsignedGroups_le {more n k : Nat} (h : n < 128 ^ (k + 1)) :
    (unsignedGroups more n).length ≤ k + 1 := by
  induction k generalizing more n with
  | zero =>
    cases more with
    | zero => exact Nat.le_refl 1
    | succ more =>
      rw [unsignedGroups, if_pos (by simpa using h)]
      exact Nat.le_refl 1
  | succ k ih =>
    cases more with
    | zero => exact Nat.le_add_left 1 (k + 1)
    | succ more =>
      rw [unsignedGroups]
      split
      · exact Nat.le_add_left 1 (k + 1)
      · rw [pow_succ] at h
        exact Nat.succ_le_succ (ih (by omega))

theorem length_unsignedGroups_le_more (more n : Nat) :
    (unsignedGroups more n).length ≤ more + 1 := by
  induction more generalizing n with
  | zero => exact Nat.le_refl 1
  | succ more ih =>
    rw [unsignedGroups]
    split
    · exact Nat.le_add_left 1 (more + 1)
    · exact Nat.succ_le_succ (ih _)

theorem signedGroups_groups (more : Nat) {n : Int} (hl : -(64 * 128 ^ more) ≤ n)
    (hu : n < 64 * 128 ^ more) :
    Groups (signedGroups more n) ∧ signedValue (signedGroups more n) = n := by
  induction more generalizing n with
  | zero =>
    rw [pow_zero] at hl hu
    have hb : (n % 128).toNat.toUInt8.toNat = (n % 128).toNat := toNat_toUInt8 (by omega)
    refine ⟨.last (by omega), ?_⟩
    simp only [signedGroups, signedValue, hb]
    split <;> omega
  | succ more ih =>
    rw [signedGroups]
    split
    · have hb : (n % 128).toNat.toUInt8.toNat = (n % 128).toNat := toNat_toUInt8 (by omega)
      refine ⟨.last (by omega), ?_⟩
      simp only [signedValue, hb]
      split <;> omega
    · have hb : ((n % 128).toNat + 128).toUInt8.toNat = (n % 128).toNat + 128 :=
        toNat_toUInt8 (by omega)
      rw [pow_succ] at hl hu
      obtain ⟨hg, hv⟩ := ih (n := n / 128) (by omega) (by omega)
      refine ⟨.more (by omega) hg, ?_⟩
      rw [signedValue_cons hg, hv, hb]
      omega

theorem length_signedGroups_le {more k : Nat} {n : Int} (hl : -(64 * 128 ^ k) ≤ n)
    (hu : n < 64 * 128 ^ k) : (signedGroups more n).length ≤ k + 1 := by
  induction k generalizing more n with
  | zero =>
    cases more with
    | zero => exact Nat.le_refl 1
    | succ more =>
      rw [pow_zero] at hl hu
      rw [signedGroups, if_pos (by omega)]
      exact Nat.le_refl 1
  | succ k ih =>
    cases more with
    | zero => exact Nat.le_add_left 1 (k + 1)
    | succ more =>
      rw [signedGroups]
      split
      · exact Nat.le_add_left 1 (k + 1)
      · rw [pow_succ] at hl hu
        exact Nat.succ_le_succ (ih (by omega) (by omega))

theorem length_signedGroups_le_more (more : Nat) (n : Int) :
    (signedGroups more n).length ≤ more + 1 := by
  induction more generalizing n with
  | zero => exact Nat.le_refl 1
  | succ more ih =>
    rw [signedGroups]
    split
    · exact Nat.le_add_left 1 (more + 1)
    · exact Nat.succ_le_succ (ih _)

theorem unsigned_u32 (n : UInt32) : Unsigned (Output.u32 n) n := by
  have hn := n.toNat_lt
  obtain ⟨hg, hv⟩ := unsignedGroups_groups 4 (n := n.toNat) (by norm_num; omega)
  refine ⟨hg, ?_⟩
  rw [Output.u32, hv, UInt32.ofNat_toNat]

theorem signed_s32 (n : Int32) : Signed (Output.s32 n) n := by
  have hl := n.le_toInt
  have hu := n.toInt_lt
  obtain ⟨hg, hv⟩ := signedGroups_groups 4 (n := n.toInt) (by norm_num; omega)
    (by norm_num; omega)
  refine ⟨hg, ?_⟩
  rw [Output.s32, hv, Int32.ofInt_toInt]

/-- No string for an unsigned integer is shorter than the one written for it or for a smaller one. -/
theorem Unsigned.length_le {bs : List UInt8} {m n : UInt32} (h : Unsigned bs n) (hm : m ≤ n) :
    (Output.u32 m).length ≤ bs.length := by
  obtain ⟨hg, rfl⟩ := h
  have hpos := hg.length_pos
  -- five groups hold any value, so the value matters for shorter strings only, where it is not cut
  by_cases hlen : bs.length < 5
  · have hv := unsignedValue_lt bs
    have hmod : (UInt32.ofNat (unsignedValue bs)).toNat ≤ unsignedValue bs := by
      rw [UInt32.toNat_ofNat']
      exact Nat.mod_le _ _
    obtain ⟨k, hk⟩ := Nat.exists_eq_add_of_le' hpos
    rw [hk] at hv ⊢
    exact length_unsignedGroups_le (((UInt32.le_iff_toNat_le.1 hm).trans hmod).trans_lt hv)
  · exact (length_unsignedGroups_le_more 4 _).trans (by omega)

theorem Signed.length_le {bs : List UInt8} {n : Int32} (h : Signed bs n) :
    (Output.s32 n).length ≤ bs.length := by
  obtain ⟨hg, rfl⟩ := h
  have hpos := hg.length_pos
  by_cases hlen : bs.length < 5
  · obtain ⟨hl, hu⟩ := hg.signedValue_bounds
    obtain ⟨k, hk⟩ := Nat.exists_eq_add_of_le' hpos
    rw [hk, Nat.add_sub_cancel] at hl hu
    have hpow : (128 ^ k : Int) ≤ 128 ^ 3 := by
      exact_mod_cast Nat.pow_le_pow_right (by omega) (show k ≤ 3 by omega)
    have hv : (Int32.ofInt (signedValue bs)).toInt = signedValue bs :=
      Int32.toInt_ofInt_of_le (by norm_num at hpow ⊢; omega) (by norm_num at hpow ⊢; omega)
    rw [hk, Output.s32, hv]
    exact length_signedGroups_le hl hu
  · exact (length_signedGroups_le_more 4 _).trans (by omega)

end Leb128

end WasmScope

import WasmScope.Binary.Leb128

namespace WasmScope

namespace Cursor

@[simp] theorem position_advance (c : Cursor) (n : Nat) :
    (c.advance n).position = c.position + n := rfl

@[simp] theorem unread_advance (c : Cursor) (n : Nat) :
    (c.advance n).unread = c.unread.drop n := rfl

@[simp] theorem advance_zero (c : Cursor) : c.advance 0 = c := rfl

theorem advance_advance (c : Cursor) (m n : Nat) :
    (c.advance m).advance n = c.advance (m + n) := by
  simp [advance, List.drop_drop, Nat.add_assoc]

end Cursor

namespace Reader

variable {α β : Type}

/-- Success moves the cursor forward by at least `least` bytes that were there. -/
def Advances (least : Nat) (r : Reader α) : Prop :=
  ∀ c x rest, r c = .ok (x, rest) →
    ∃ k, least ≤ k ∧ k ≤ c.unread.length ∧ rest = c.advance k

theorem Advances.shortens {r : Reader α} (h : Advances 1 r) {c : Cursor} {x : α}
    {rest : Cursor} (hr : r c = .ok (x, rest)) : rest.unread.length < c.unread.length := by
  obtain ⟨k, hk, hle, rfl⟩ := h c x rest hr
  simp only [Cursor.unread_advance, List.length_drop]
  omega

theorem Advances.mono {m n : Nat} {r : Reader α} (h : Advances n r) (hle : m ≤ n) :
    Advances m r := by
  intro c x rest hr
  obtain ⟨k, hk, hlen, rfl⟩ := h c x rest hr
  exact ⟨k, by omega, hlen, rfl⟩

theorem advances_pure (x : α) : Advances 0 (pure x : Reader α) := by
  intro c y rest hr
  cases hr
  exact ⟨0, Nat.le_refl 0, Nat.zero_le _, rfl⟩

theorem advances_fail (n : Nat) (d : Defect) : Advances n (fail d : Reader α) := by
  intro c y rest hr
  cases hr

theorem advances_position : Advances 0 position := by
  intro c y rest hr
  cases hr
  exact ⟨0, Nat.le_refl 0, Nat.zero_le _, rfl⟩

theorem bind_eq_ok {ε : Type} {r : StateT Cursor (Except ε) α}
    {f : α → StateT Cursor (Except ε) β} {c rest : Cursor} {y : β} :
    (r >>= f) c = .ok (y, rest) ↔ ∃ x mid, r c = .ok (x, mid) ∧ f x mid = .ok (y, rest) := by
  change StateT.bind r f c = _ ↔ _
  cases hr : r c with
  | error d => simp [StateT.bind, bind, Except.bind, hr]
  | ok p =>
    obtain ⟨x, mid⟩ := p
    simp only [StateT.bind, bind, Except.bind, hr, Except.ok.injEq, Prod.mk.injEq]
    constructor
    · intro h
      exact ⟨x, mid, ⟨rfl, rfl⟩, h⟩
    · rintro ⟨_, _, ⟨rfl, rfl⟩, h⟩
      exact h

theorem Advances.bind {m n : Nat} {r : Reader α} {f : α → Reader β} (h : Advances m r)
    (hf : ∀ x, Advances n (f x)) : Advances (m + n) (r >>= f) := by
  intro c y rest hr
  obtain ⟨x, mid, hx, hy⟩ := bind_eq_ok.1 hr
  obtain ⟨j, hj, hjlen, rfl⟩ := h c x mid hx
  obtain ⟨k, hk, hklen, rfl⟩ := hf x _ y rest hy
  refine ⟨j + k, by omega, ?_, Cursor.advance_advance c j k⟩
  simp only [Cursor.unread_advance, List.length_drop] at hklen
  omega

theorem advances_byte : Advances 1 byte := by
  intro c x rest hr
  unfold byte at hr
  split at hr
  · cases hr
  · next b tail h =>
    cases hr
    exact ⟨1, Nat.le_refl 1, by simp [h], by simp [Cursor.advance, h]⟩

theorem advances_bytes (n : Int) : Advances n.toNat (bytes n) := by
  intro c x rest hr
  unfold bytes at hr
  split at hr
  · next h =>
    cases hr
    exact ⟨n.toNat, Nat.le_refl _, holds_eq_true.1 h.2, rfl⟩
  · cases hr

theorem advances_region (n : Int) : Advances n.toNat (region n) := by
  intro c x rest hr
  unfold region at hr
  split at hr
  · cases hr
  · next data rest' h =>
    cases hr
    exact advances_bytes n c data rest h

end Reader

namespace Leb128

theorem scan_rest {value count : Nat} {bytes : List UInt8} {s : Scan}
    (h : scan value count bytes = some s) :
    count < s.count ∧ s.count - count ≤ bytes.length ∧ s.rest = bytes.drop (s.count - count) := by
  induction bytes generalizing value count with
  | nil => cases h
  | cons b tail ih =>
    simp only [scan] at h
    split at h
    · cases h
      simp
    · obtain ⟨h1, h2, h3⟩ := ih h
      refine ⟨by omega, by simp only [List.length_cons]; omega, ?_⟩
      rw [h3, show s.count - count = (s.count - (count + 1)) + 1 by omega, List.drop_succ_cons]

end Leb128

namespace Reader

theorem advances_leb128 {α : Type} (value : Leb128.Scan → α) : Advances 1 (leb128 value) := by
  intro c x rest hr
  unfold leb128 at hr
  split at hr
  · cases hr
  · next s h =>
    cases hr
    obtain ⟨h1, h2, h3⟩ := Leb128.scan_rest h
    exact ⟨s.count, h1, h2, by simp [Cursor.advance, h3]⟩

theorem advances_u32 : Advances 1 u32 := advances_leb128 _

theorem advances_s32 : Advances 1 s32 := advances_leb128 _

end Reader

end WasmScope

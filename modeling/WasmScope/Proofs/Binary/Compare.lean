import WasmScope.Proofs.Binary.Locate

namespace WasmScope

namespace Cursor

variable {c rest : Cursor} {bs : List UInt8}

def shift (c : Cursor) (n : Nat) : Cursor := ⟨c.position + n, c.unread⟩

theorem Spans.shift (h : c.Spans bs rest) (n : Nat) : (c.shift n).Spans bs (rest.shift n) := by
  refine ⟨h.unread, ?_⟩
  change rest.position + n = c.position + n + bs.length
  rw [h.position]
  omega

theorem shift_advance (c : Cursor) (k n : Nat) : (c.shift n).advance k = (c.advance k).shift n := by
  rw [shift, advance, advance, shift, Nat.add_right_comm]

theorem shift_ofBytes (c : Cursor) : (ofBytes c.unread).shift c.position = c := by
  rw [shift, ofBytes, Nat.zero_add]

end Cursor

/-- The second defect is reported as the first one is, `n` positions further on. -/
def Defect.MovedBy (n : Nat) (d d' : Defect) : Prop :=
  d'.report = { d.report with offset := d.report.offset + n }

theorem Defect.offset_nonneg (d : Defect) : 0 ≤ d.report.offset := by
  cases d <;> exact Int.natCast_nonneg _

theorem Cursor.underrun_movedBy (c : Cursor) (want : Int) (n : Nat) :
    (c.underrun want).MovedBy n ((c.shift n).underrun want) := rfl

namespace Reader

variable {ε α β : Type} {n : Nat} {moved : ε → ε → Prop}

/-- Over the same bytes, `n` positions further on, the second reader does what the first one does;
where both fail, the first error has moved to the second. -/
structure Shifts (n : Nat) (moved : ε → ε → Prop) (r r' : StateT Cursor (Except ε) α) : Prop where
  ok {c : Cursor} {x : α} {rest : Cursor} :
    r c = .ok (x, rest) → r' (c.shift n) = .ok (x, rest.shift n)
  error {c : Cursor} {e : ε} : r c = .error e → ∃ e', r' (c.shift n) = .error e' ∧ moved e e'

theorem Reads.shifts {r r' : StateT Cursor (Except ε) α} {F : Format α} (h : Reads r F)
    (h' : Reads r' F)
    (he : ∀ {c e}, r c = .error e → ∃ e', r' (c.shift n) = .error e' ∧ moved e e') :
    Shifts n moved r r' := by
  refine ⟨fun hr => ?_, he⟩
  obtain ⟨bs, hF, hs⟩ := (h _ _ _).1 hr
  exact (h' _ _ _).2 ⟨bs, hF, hs.shift n⟩

theorem shifts_pure (x : α) : Shifts n moved (pure x) (pure x) :=
  (reads_pure x).shifts (reads_pure x) fun hr => nomatch hr

theorem shifts_fail {moved : Defect → Defect → Prop} {d d' : Defect} (h : moved d d') :
    Shifts n moved (fail d : Reader α) (fail d') := by
  apply (reads_fail d).shifts (reads_fail d')
  intro c e hr
  cases hr
  exact ⟨d', rfl, h⟩

theorem Shifts.bind {r r' : StateT Cursor (Except ε) α} {f f' : α → StateT Cursor (Except ε) β}
    (h : Shifts n moved r r') (hf : ∀ x, Shifts n moved (f x) (f' x)) :
    Shifts n moved (r >>= f) (r' >>= f') := by
  constructor
  · intro c y rest hr
    obtain ⟨x, mid, hx, hy⟩ := bind_eq_ok.1 hr
    exact bind_eq_ok.2 ⟨x, _, h.ok hx, (hf x).ok hy⟩
  · intro c e hr
    rcases bind_eq_error.1 hr with hr | ⟨x, mid, hx, hy⟩
    · obtain ⟨e', he', hmoved⟩ := h.error hr
      exact ⟨e', bind_eq_error.2 (.inl he'), hmoved⟩
    · obtain ⟨e', he', hmoved⟩ := (hf x).error hy
      exact ⟨e', bind_eq_error.2 (.inr ⟨x, _, h.ok hx, he'⟩), hmoved⟩

theorem Shifts.map {r r' : StateT Cursor (Except ε) α} (h : Shifts n moved r r') (f : α → β) :
    Shifts n moved (f <$> r) (f <$> r') := by
  rw [map_eq_pure_bind, map_eq_pure_bind]
  exact h.bind fun x => shifts_pure (f x)

theorem shifts_repeated {step step' : Nat → StateT Cursor (Except ε) α}
    (h : ∀ i, Shifts n moved (step i) (step' i)) (k i : Nat) (done : List α) :
    Shifts n moved (repeated step k i done) (repeated step' k i done) := by
  induction k generalizing i done with
  | zero => exact shifts_pure _
  | succ k ih => exact (h i).bind fun x => ih (i + 1) (x :: done)

theorem shifts_byte : Shifts n (Defect.MovedBy n) byte byte := by
  apply reads_byte.shifts reads_byte
  intro c d hr
  unfold byte at hr
  split at hr
  · next hnil =>
    cases hr
    refine ⟨_, ?_, c.underrun_movedBy 1 n⟩
    rw [byte, Cursor.shift, hnil]
  · cases hr

theorem shifts_position_byte {f f' : Nat → UInt8 → Reader α}
    (h : ∀ position b, Shifts n (Defect.MovedBy n) (f position b) (f' (position + n) b)) :
    Shifts n (Defect.MovedBy n) (position >>= fun k => byte >>= f k)
      (position >>= fun k => byte >>= f' k) := by
  have hbyte (k : Nat) : Shifts n (Defect.MovedBy n) (byte >>= f k) (byte >>= f' (k + n)) :=
    shifts_byte.bind fun b => h k b
  constructor
  · intro c y rest hr
    obtain ⟨k, _, hk, hr⟩ := bind_eq_ok.1 hr
    cases hk
    exact bind_eq_ok.2 ⟨c.position + n, c.shift n, rfl, (hbyte _).ok hr⟩
  · intro c d hr
    rcases bind_eq_error.1 hr with hr | ⟨k, _, hk, hr⟩
    · cases hr
    · cases hk
      obtain ⟨d', hd', hmoved⟩ := (hbyte _).error hr
      exact ⟨d', bind_eq_error.2 (.inr ⟨c.position + n, c.shift n, rfl, hd'⟩), hmoved⟩

theorem shifts_bytes (k : Nat) : Shifts n (Defect.MovedBy n) (bytes k) (bytes k) := by
  apply (reads_bytes k).shifts (reads_bytes k)
  intro c d hr
  unfold bytes at hr
  split at hr
  · cases hr
  · next hshort =>
    cases hr
    exact ⟨_, if_neg hshort, c.underrun_movedBy k n⟩

theorem shifts_leb128 {value : Leb128.Scan → α} {F : Format α} (h : Reads (leb128 value) F) :
    Shifts n (Defect.MovedBy n) (leb128 value) (leb128 value) := by
  apply h.shifts h
  intro c d hr
  unfold leb128 at hr
  split at hr
  · next hscan =>
    cases hr
    refine ⟨_, ?_, (c.advance c.unread.length).underrun_movedBy 1 n⟩
    have hunread : (c.shift n).unread = c.unread := rfl
    rw [← Cursor.shift_advance, leb128, hunread, hscan]
  · cases hr

theorem shifts_u32 : Shifts n (Defect.MovedBy n) u32 u32 := shifts_leb128 reads_u32

theorem shifts_s32 : Shifts n (Defect.MovedBy n) s32 s32 := shifts_leb128 reads_s32

theorem shifts_vector {element : Reader α} (h : Shifts n (Defect.MovedBy n) element element) :
    Shifts n (Defect.MovedBy n) (vector element) (vector element) :=
  shifts_u32.bind fun count => shifts_repeated (fun _ => h) count.toNat 0 []

variable {offset : ε → Int}

/-- The reader ends, or fails, no earlier in the input than where it began. -/
structure Onward (offset : ε → Int) (r : StateT Cursor (Except ε) α) : Prop where
  ok {c : Cursor} {x : α} {rest : Cursor} : r c = .ok (x, rest) → c.position ≤ rest.position
  error {c : Cursor} {e : ε} : r c = .error e → c.position ≤ offset e

/-- A reader that does not depend on its place cannot go back: from the start of the input there is
no place to go back to. -/
theorem onward_of_shifts {moved : Nat → ε → ε → Prop} {r : StateT Cursor (Except ε) α}
    (h : ∀ n, Shifts n (moved n) r r) (hm : ∀ {n e e'}, moved n e e' → n ≤ offset e') :
    Onward offset r := by
  constructor
  · intro c x rest hr
    cases hstart : r (.ofBytes c.unread) with
    | error e =>
      obtain ⟨e', he', -⟩ := (h c.position).error hstart
      rw [Cursor.shift_ofBytes, hr] at he'
      cases he'
    | ok p =>
      have hp := (h c.position).ok hstart
      rw [Cursor.shift_ofBytes, hr] at hp
      cases hp
      exact Nat.le_add_left _ _
  · intro c e hr
    cases hstart : r (.ofBytes c.unread) with
    | error e₀ =>
      obtain ⟨e', he', hmoved⟩ := (h c.position).error hstart
      rw [Cursor.shift_ofBytes, hr] at he'
      cases he'
      exact hm hmoved
    | ok p =>
      have hp := (h c.position).ok hstart
      rw [Cursor.shift_ofBytes, hr] at hp
      cases hp

theorem onward_pure (x : α) : Onward offset (pure x) := by
  constructor
  · intro c y rest hr
    cases hr
    exact Nat.le_refl _
  · intro c e hr
    cases hr

theorem Onward.bind {r : StateT Cursor (Except ε) α} {f : α → StateT Cursor (Except ε) β}
    (h : Onward offset r) (hf : ∀ x, Onward offset (f x)) : Onward offset (r >>= f) := by
  constructor
  · intro c y rest hr
    obtain ⟨x, mid, hx, hy⟩ := bind_eq_ok.1 hr
    exact (h.ok hx).trans ((hf x).ok hy)
  · intro c e hr
    rcases bind_eq_error.1 hr with hr | ⟨x, mid, hx, hy⟩
    · exact h.error hr
    · exact (Int.ofNat_le.2 (h.ok hx)).trans ((hf x).error hy)

theorem onward_repeated {step : Nat → StateT Cursor (Except ε) α}
    (h : ∀ i, Onward offset (step i)) (k i : Nat) (done : List α) :
    Onward offset (repeated step k i done) := by
  induction k generalizing i done with
  | zero => exact onward_pure _
  | succ k ih => exact (h i).bind fun x => ih (i + 1) (x :: done)

theorem bind_congr_left {r r' : StateT Cursor (Except ε) α} {f : α → StateT Cursor (Except ε) β}
    {c : Cursor} (h : r' c = r c) : (r' >>= f) c = (r >>= f) c := by
  change StateT.bind r' f c = StateT.bind r f c
  rw [StateT.bind, StateT.bind, h]

/-- The second reader does what the first one does, or it fails before the place where the first one
ends or fails. -/
def Preempts (offset : ε → Int) (early : ε → Prop) (r r' : StateT Cursor (Except ε) α) : Prop :=
  ∀ c, r' c = r c ∨ ∃ e, r' c = .error e ∧ early e ∧
    (∀ x rest, r c = .ok (x, rest) → offset e < rest.position) ∧
    ∀ d, r c = .error d → offset e < offset d

variable {early : ε → Prop}

theorem preempts_self (r : StateT Cursor (Except ε) α) : Preempts offset early r r :=
  fun _ => .inl rfl

theorem Preempts.bind {r r' : StateT Cursor (Except ε) α}
    {f f' : α → StateT Cursor (Except ε) β} (h : Preempts offset early r r')
    (hf : ∀ x, Preempts offset early (f x) (f' x)) (ho : ∀ x, Onward offset (f x)) :
    Preempts offset early (r >>= f) (r' >>= f') := by
  intro c
  rcases h c with hsame | ⟨e, he, hearly, hok, herror⟩
  · cases hr : r c with
    | error d =>
      rw [hr] at hsame
      exact .inl ((bind_eq_error.2 (.inl hsame)).trans (bind_eq_error.2 (.inl hr)).symm)
    | ok p =>
      obtain ⟨x, mid⟩ := p
      have hnext : (r >>= f) c = f x mid := by
        change StateT.bind r f c = _
        simp only [StateT.bind, hr]
        rfl
      have hnext' : (r' >>= f') c = f' x mid := by
        change StateT.bind r' f' c = _
        simp only [StateT.bind, hsame, hr]
        rfl
      rw [hnext, hnext']
      exact hf x mid
  · -- the second reader has failed before the first one goes on, and going on leads further away
    refine .inr ⟨e, bind_eq_error.2 (.inl he), hearly, ?_, ?_⟩
    · intro y rest hr
      obtain ⟨x, mid, hx, hy⟩ := bind_eq_ok.1 hr
      exact (hok x mid hx).trans_le (Int.ofNat_le.2 ((ho x).ok hy))
    · intro d hr
      rcases bind_eq_error.1 hr with hr | ⟨x, mid, hx, hy⟩
      · exact herror d hr
      · exact (hok x mid hx).trans_le ((ho x).error hy)

theorem preempts_repeated {step step' : Nat → StateT Cursor (Except ε) α}
    (h : ∀ i, Preempts offset early (step i) (step' i)) (ho : ∀ i, Onward offset (step i))
    (k i : Nat) (done : List α) :
    Preempts offset early (repeated step k i done) (repeated step' k i done) := by
  induction k generalizing i done with
  | zero => exact preempts_self _
  | succ k ih =>
    exact (h i).bind (fun x => ih (i + 1) (x :: done)) fun x => onward_repeated ho _ _ _

end Reader

end WasmScope

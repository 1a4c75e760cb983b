import WasmScope.Proofs.Binary.Window

namespace WasmScope

namespace WindowReader

variable {α ε : Type} {ofDefect : Defect → ε} {element : EStateM ε Window α}
  {w mid last : Window} {xs : List α}

/-- The reader keeps to its region, and success takes at least one byte of it. A failure may leave
the offset anywhere. -/
structure Steps (element : EStateM ε Window α) : Prop where
  ok {w w' : Window} {x : α} : element w = .ok x w' →
    ∃ k, 1 ≤ k ∧ w.offset + k ≤ w.data.length ∧ w' = w.skip k
  error {w w' : Window} {e : ε} : element w = .error e w' → ∃ o, w' = { w with offset := o }

/-- Reads that succeed one after another: their values, and the window behind the last of them. -/
inductive InTurn (element : EStateM ε Window α) : Window → List α → Window → Prop
  | nil {w : Window} : InTurn element w [] w
  | cons {w mid w' : Window} {x : α} {xs : List α} (head : element w = .ok x mid)
      (tail : InTurn element mid xs w') : InTurn element w (x :: xs) w'

/-- The windows in which the reads of up to `n` elements are made, up to the first that fails. -/
def attempts (element : EStateM ε Window α) : Nat → Window → List Window
  | 0, _ => []
  | n + 1, w => w ::
    match element w with
    | .ok _ w' => attempts element n w'
    | .error _ _ => []

theorem inTurn_cases (element : EStateM ε Window α) (n : Nat) (w : Window) :
    (∃ xs w', InTurn element w xs w' ∧ xs.length = n) ∨
      ∃ xs last e after, InTurn element w xs last ∧ xs.length < n ∧
        element last = .error e after := by
  induction n generalizing w with
  | zero => exact .inl ⟨[], w, .nil, rfl⟩
  | succ n ih =>
    cases hr : element w with
    | error e after => exact .inr ⟨[], w, e, after, .nil, Nat.succ_pos n, hr⟩
    | ok x mid =>
      rcases ih mid with ⟨xs, w', hxs, hlength⟩ | ⟨xs, last, e, after, hxs, hlength, herror⟩
      · exact .inl ⟨x :: xs, w', .cons hr hxs, congrArg Nat.succ hlength⟩
      · exact .inr ⟨x :: xs, last, e, after, .cons hr hxs, Nat.succ_lt_succ hlength, herror⟩

theorem InTurn.repeated (h : InTurn element w xs mid) (n i : Nat) (done : List α) :
    Reader.repeated (fun _ => element) (xs.length + n) i done w =
      Reader.repeated (fun _ => element) n (i + xs.length) (xs.reverse ++ done) mid := by
  induction h generalizing i done with
  | nil => rw [List.length_nil, Nat.zero_add]; rfl
  | @cons w mid w' x xs head tail ih =>
    rw [List.length_cons, Nat.add_right_comm, Reader.repeated, bind_of_ok head, ih,
      List.reverse_cons, List.append_assoc, Nat.add_right_comm i, Nat.add_assoc i]
    rfl

theorem InTurn.attempts_eq (h : InTurn element w xs mid) (n : Nat) :
    (attempts element (xs.length + n) w).length = xs.length + (attempts element n mid).length := by
  induction h with
  | nil => rw [List.length_nil, Nat.zero_add, Nat.zero_add]
  | cons head tail ih =>
    rw [List.length_cons, Nat.add_right_comm, attempts, head, List.length_cons, ih,
      Nat.add_right_comm]

theorem Steps.inTurn (hs : Steps element) (h : InTurn element w xs mid) :
    ∃ k, xs.length ≤ k ∧ k ≤ w.remaining ∧ mid = w.skip k := by
  induction h with
  | nil => exact ⟨0, Nat.le_refl 0, Nat.zero_le _, rfl⟩
  | cons head tail ih =>
    obtain ⟨j, hj, hfits, rfl⟩ := hs.ok head
    obtain ⟨k, hk, hle, rfl⟩ := ih
    simp only [Window.remaining, Window.skip] at hle
    refine ⟨j + k, ?_, ?_, Window.skip_skip _ j k⟩
    · rw [List.length_cons]
      omega
    · rw [Window.remaining]
      omega

/-- The loop makes the reads of these windows and no others: what the reader of the elements does
elsewhere is not asked. -/
theorem repeated_congr {element' : EStateM ε Window α} {n : Nat}
    (h : ∀ v ∈ attempts element n w, element' v = element v) (i : Nat) (done : List α) :
    Reader.repeated (fun _ => element') n i done w =
      Reader.repeated (fun _ => element) n i done w := by
  induction n generalizing w i done with
  | zero => rfl
  | succ n ih =>
    obtain ⟨hhere, hlater⟩ := List.forall_mem_cons.1 h
    cases hr : element w with
    | error e after =>
      rw [Reader.repeated, Reader.repeated, bind_of_error (hhere.trans hr), bind_of_error hr]
    | ok x mid =>
      rw [hr] at hlater
      rw [Reader.repeated, Reader.repeated, bind_of_ok (hhere.trans hr), bind_of_ok hr]
      exact ih hlater (i + 1) (x :: done)

section Count

variable {c : UInt32} {d : Defect} {e : ε} {after : Window}

theorem vector_of_count (hc : u32 w = .ok c mid) (ofDefect : Defect → ε)
    (element : EStateM ε Window α) :
    vector ofDefect element w =
      orBackTo w.offset (Reader.repeated (fun _ => element) c.toNat 0 []) mid :=
  (bind_of_ok rfl).trans (bind_of_ok (adapt_of_ok hc ofDefect))

theorem vector_of_uncounted (hc : u32 w = .error d after) (ofDefect : Defect → ε)
    (element : EStateM ε Window α) : vector ofDefect element w = .error (ofDefect d) w := by
  rw [agrees_u32.eq_of_error hc] at hc
  exact (bind_of_ok rfl).trans (bind_of_error (adapt_of_error hc ofDefect))

theorem vector_of_inTurn (hc : u32 w = .ok c mid) (h : InTurn element mid xs last)
    (hlength : xs.length = c.toNat) : vector ofDefect element w = .ok xs last := by
  rw [vector_of_count hc, ← hlength]
  apply orBackTo_of_ok
  have hloop := h.repeated 0 0 []
  rw [List.append_nil, Reader.repeated, List.reverse_reverse] at hloop
  exact hloop

theorem vector_of_error (hc : u32 w = .ok c mid) (h : InTurn element mid xs last)
    (hlength : xs.length < c.toNat) (herror : element last = .error e after) :
    vector ofDefect element w = .error e { after with offset := w.offset } := by
  obtain ⟨n, hn⟩ := Nat.exists_eq_add_of_lt hlength
  have hloop := h.repeated (n + 1) 0 []
  rw [Reader.repeated, bind_of_error herror, ← Nat.add_assoc, ← hn] at hloop
  rw [vector_of_count hc, orBackTo_of_error hloop]

theorem Steps.rewound (hs : Steps element) (hc : u32 w = .ok c mid)
    (h : InTurn element mid xs last) (herror : element last = .error e after) :
    { after with offset := w.offset } = w := by
  obtain ⟨bs, -, -, rfl⟩ := u32_eq_ok_iff.1 hc
  obtain ⟨k, -, -, rfl⟩ := hs.inTurn h
  obtain ⟨o, rfl⟩ := hs.error herror
  rfl

end Count

theorem vector_eq_ok_iff {w' : Window} :
    vector ofDefect element w = .ok xs w' ↔
      ∃ c mid, u32 w = .ok c mid ∧ xs.length = c.toNat ∧ InTurn element mid xs w' := by
  constructor
  · intro h
    cases hc : u32 w with
    | error d after => cases h.symm.trans (vector_of_uncounted hc ofDefect element)
    | ok c mid =>
      rcases inTurn_cases element c.toNat mid with
        ⟨ys, last, hys, hlength⟩ | ⟨ys, last, e, after, hys, hlength, herror⟩
      · cases h.symm.trans (vector_of_inTurn hc hys hlength)
        exact ⟨c, mid, rfl, hlength, hys⟩
      · cases h.symm.trans (vector_of_error hc hys hlength herror)
  · intro h
    obtain ⟨c, mid, hc, hlength, hxs⟩ := h
    exact vector_of_inTurn hc hxs hlength

theorem Steps.vector_eq_error_iff (hs : Steps element) {e : ε} {w' : Window} :
    vector ofDefect element w = .error e w' ↔ w' = w ∧ ((∃ d, u32 w = .error d w ∧ ofDefect d = e) ∨
      ∃ c mid xs last after, u32 w = .ok c mid ∧ xs.length < c.toNat ∧ InTurn element mid xs last ∧
        element last = .error e after) := by
  constructor
  · intro h
    cases hc : u32 w with
    | error d after =>
      cases h.symm.trans (vector_of_uncounted hc ofDefect element)
      rw [agrees_u32.eq_of_error hc]
      exact ⟨rfl, .inl ⟨d, rfl, rfl⟩⟩
    | ok c mid =>
      rcases inTurn_cases element c.toNat mid with
        ⟨ys, last, hys, hlength⟩ | ⟨ys, last, e', after, hys, hlength, herror⟩
      · cases h.symm.trans (vector_of_inTurn hc hys hlength)
      · cases h.symm.trans (vector_of_error hc hys hlength herror)
        exact ⟨hs.rewound hc hys herror, .inr ⟨c, mid, ys, last, after, rfl, hlength, hys, herror⟩⟩
  · intro h
    obtain ⟨rfl, ⟨d, hc, rfl⟩ | ⟨c, mid, ys, last, after, hc, hlength, hys, herror⟩⟩ := h
    · exact vector_of_uncounted hc ofDefect element
    · rw [vector_of_error hc hys hlength herror, hs.rewound hc hys herror]

theorem steps_vector (hs : Steps element) (ofDefect : Defect → ε) :
    Steps (vector ofDefect element) := by
  constructor
  · intro w w' xs h
    obtain ⟨c, mid, hc, -, hxs⟩ := vector_eq_ok_iff.1 h
    obtain ⟨bs, hbs, hunread, rfl⟩ := u32_eq_ok_iff.1 hc
    obtain ⟨k, -, hk, rfl⟩ := hs.inTurn hxs
    have hcount := hbs.1.length_pos
    have hfront := hunread.length_le
    rw [Window.length_unread] at hfront
    simp only [Window.remaining, Window.skip] at hk hfront
    exact ⟨bs.length + k, by omega, by omega, Window.skip_skip w bs.length k⟩
  · intro w w' e h
    rw [(hs.vector_eq_error_iff.1 h).1]
    exact ⟨w.offset, rfl⟩

theorem Agrees.steps {element : WindowReader α} {r : Reader α} (h : Agrees element r)
    (hr : Reader.Advances 1 r) : Steps element := by
  constructor
  · intro w w' x hx
    cases hcursor : r w.cursor with
    | error d => cases hx.symm.trans (h.error hcursor)
    | ok p =>
      obtain ⟨y, c⟩ := p
      obtain ⟨j, hj, hfits, hc⟩ := hr _ _ _ hcursor
      obtain ⟨k, hk, rfl, hw⟩ := h.ok hcursor
      cases hx.symm.trans hw
      have hjk : w.position + k = w.position + j := congrArg Cursor.position hc
      rw [Window.length_unread, Window.remaining] at hk
      exact ⟨k, by omega, by omega, rfl⟩
  · intro w w' d hx
    rw [h.eq_of_error hx]
    exact ⟨w.offset, rfl⟩

theorem Steps.vector_oversized (hs : Steps element) {c : UInt32} (hc : u32 w = .ok c mid)
    (hover : mid.remaining < c.toNat) :
    (∃ e, vector ofDefect element w = .error e w) ∧
      (attempts element c.toNat mid).length ≤ mid.remaining + 1 := by
  rcases inTurn_cases element c.toNat mid with
    ⟨xs, last, hxs, hlength⟩ | ⟨xs, last, e, after, hxs, hlength, herror⟩
  · obtain ⟨k, hk, hle, -⟩ := hs.inTurn hxs
    omega
  · refine ⟨⟨e, hs.vector_eq_error_iff.2 ⟨rfl, .inr ?_⟩⟩, ?_⟩
    · exact ⟨c, mid, xs, last, after, hc, hlength, hxs, herror⟩
    · obtain ⟨n, hn⟩ := Nat.exists_eq_add_of_lt hlength
      obtain ⟨k, hk, hle, -⟩ := hs.inTurn hxs
      have hreads := hxs.attempts_eq (n + 1)
      rw [attempts, herror, List.length_singleton, ← Nat.add_assoc, ← hn] at hreads
      omega

/-- With a reader of elements that moves forward in its region, a vector succeeds exactly where its
count can be read and then so many elements, one behind another, and it gives those. Otherwise it
fails as the count or the first of the elements that cannot be read, and leaves the window as it
was. It makes the reads of `attempts` and no others, which are at most one more than the bytes
behind the count where the count is larger than their number; then it fails. -/
theorem vector_exact (ofDefect : Defect → ε) (element : EStateM ε Window α) (hs : Steps element)
    (w : Window) :
    (∀ xs w', vector ofDefect element w = .ok xs w' ↔
      ∃ c mid, u32 w = .ok c mid ∧ xs.length = c.toNat ∧ InTurn element mid xs w') ∧
    (∀ e w', vector ofDefect element w = .error e w' ↔ w' = w ∧
      ((∃ d, u32 w = .error d w ∧ ofDefect d = e) ∨
        ∃ c mid xs last after, u32 w = .ok c mid ∧ xs.length < c.toNat ∧
          InTurn element mid xs last ∧ element last = .error e after)) ∧
    ∀ c mid, u32 w = .ok c mid →
      (∀ element', (∀ v ∈ attempts element c.toNat mid, element' v = element v) →
        vector ofDefect element' w = vector ofDefect element w) ∧
      (mid.remaining < c.toNat → (∃ e, vector ofDefect element w = .error e w) ∧
        (attempts element c.toNat mid).length ≤ mid.remaining + 1) := by
  refine ⟨fun xs w' => vector_eq_ok_iff, fun e w' => hs.vector_eq_error_iff, fun c mid hc => ?_⟩
  refine ⟨fun element' hsame => ?_, hs.vector_oversized hc⟩
  rw [vector_of_count hc, vector_of_count hc, orBackTo, orBackTo, repeated_congr hsame]

/-- A vector of vectors with the largest count there is, three bytes before the end. -/
theorem vector_exact_oversized :
    let w := Window.openAt 8 [0xFF, 0xFF, 0xFF, 0xFF, 0x0F, 0x01, 0x05, 0x00]
    Steps (vector id u32) ∧ u32 w = .ok 0xFFFFFFFF (w.skip 5) ∧
      (∃ d, vector id (vector id u32) w = .error d w) ∧
      (attempts (vector id u32) 0xFFFFFFFF (w.skip 5)).length ≤ 4 := by
  intro w
  have hs : Steps (vector id u32) := steps_vector (agrees_u32.steps Reader.advances_u32) id
  have hc : u32 w = .ok 0xFFFFFFFF (w.skip 5) :=
    u32_eq_ok_iff.2 ⟨Output.u32 0xFFFFFFFF, Leb128.unsigned_u32 _, by decide, rfl⟩
  obtain ⟨-, -, hcount⟩ := vector_exact id (vector id u32) hs w
  obtain ⟨-, hover⟩ := hcount 0xFFFFFFFF (w.skip 5) hc
  obtain ⟨hfails, hreads⟩ := hover (by decide)
  exact ⟨hs, hc, hfails, hreads⟩

end WindowReader

end WasmScope

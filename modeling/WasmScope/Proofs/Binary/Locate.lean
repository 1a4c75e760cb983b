import WasmScope.Proofs.Binary.Leb128

namespace WasmScope

namespace Cursor

def Within (c : Cursor) (data : List UInt8) : Prop :=
  ∃ before after, data = before ++ (c.unread ++ after) ∧ before.length = c.position

variable {c rest : Cursor} {data bs : List UInt8} {b : UInt8}

theorem within_ofBytes (data : List UInt8) : (ofBytes data).Within data :=
  ⟨[], [], (List.append_nil data).symm, rfl⟩

namespace Within

theorem spans (h : c.Within data) (hs : c.Spans bs rest) : rest.Within data := by
  obtain ⟨before, after, rfl, hpos⟩ := h
  refine ⟨before ++ bs, after, by simp [hs.unread], ?_⟩
  rw [List.length_append, hpos, hs.position]

theorem region (h : c.Within data) (hs : c.Spans bs rest) : Within ⟨c.position, bs⟩ data := by
  obtain ⟨before, after, rfl, hpos⟩ := h
  exact ⟨before, rest.unread ++ after, by simp [hs.unread], hpos⟩

theorem room (h : c.Within data) : c.position + c.unread.length ≤ data.length := by
  obtain ⟨before, after, rfl, hpos⟩ := h
  simp only [List.length_append]
  omega

theorem next (h : c.Within data) (hc : c.unread = b :: bs) : data[c.position]? = some b := by
  obtain ⟨before, after, rfl, hpos⟩ := h
  rw [← hpos, hc]
  simp

theorem slice (h : c.Within data) (hs : c.Spans bs rest) :
    (data.drop c.position).take bs.length = bs := by
  obtain ⟨before, after, rfl, hpos⟩ := h
  rw [← hpos, hs.unread]
  simp

theorem suffix (h : c.Within data) (hs : c.Spans bs rest) : bs <:+ data.take rest.position := by
  obtain ⟨before, after, rfl, hpos⟩ := h
  refine ⟨before, ?_⟩
  rw [hs.position, ← hpos, hs.unread, ← List.length_append, List.append_assoc, ← List.append_assoc,
    List.take_left]

theorem last (h : c.Within data) (hs : c.Spans (bs ++ [b]) rest) :
    1 ≤ rest.position ∧ data[rest.position - 1]? = some b := by
  obtain ⟨mid, hfront, hlast⟩ := hs.split
  have hpos : rest.position = mid.position + 1 := hlast.position
  rw [hpos, Nat.add_sub_cancel]
  exact ⟨Nat.le_add_left 1 _, (h.spans hfront).next hlast.unread⟩

end Within

end Cursor

/-- What a defect says of the input is so, where `limit` is how deep instructions may nest. -/
def Defect.HoldsIn (limit : Nat) (data : List UInt8) : Defect → Prop
  | underrun offset want remaining =>
    (remaining : Int) < want ∧ offset + remaining ≤ data.length
  | invalidUtf8 offset bytes =>
    ¬ bytes.toByteArray.IsValidUTF8 ∧ offset + bytes.length ≤ data.length ∧
      (data.drop offset).take bytes.length = bytes ∧
      ∃ size n, size <:+ data.take offset ∧ Leb128.Unsigned size n ∧ n.toNat = bytes.length
  | invalidMagic got => 4 ≤ data.length ∧ got = data.take 4
  | invalidValType offset tag => data[offset]? = some tag
  | invalidFuncTypeTag offset tag => data[offset]? = some tag
  | invalidOpcode offset code => data[offset]? = some code
  | unexpectedElse offset => data[offset]? = some 0x05
  | unknownSection offset id => data[offset]? = some id
  | nestingTooDeep offset bound =>
    bound = limit ∧ ∃ code, data[offset]? = some code ∧ (code = 0x02 ∨ code = 0x03 ∨ code = 0x04)
  | trailingBytes offset count =>
    1 ≤ count ∧ offset + count ≤ data.length ∧ 1 ≤ offset ∧ data[offset - 1]? = some 0x0B

theorem Cursor.Within.underrun {c : Cursor} {data : List UInt8} (h : c.Within data) {want : Int}
    (hlt : c.unread.length < want) (limit : Nat) : (c.underrun want).HoldsIn limit data :=
  ⟨hlt, h.room⟩

theorem fromUTF8_eq_none_iff {bs : List UInt8} :
    String.fromUTF8? bs.toByteArray = none ↔ ¬ bs.toByteArray.IsValidUTF8 := by
  unfold String.fromUTF8?
  split
  · next h => simp [h]
  · next h => simp [h]

namespace Reader

variable {ε α β : Type}

theorem bind_eq_error {r : StateT Cursor (Except ε) α} {f : α → StateT Cursor (Except ε) β}
    {c : Cursor} {e : ε} :
    (r >>= f) c = .error e ↔
      r c = .error e ∨ ∃ x mid, r c = .ok (x, mid) ∧ f x mid = .error e := by
  change StateT.bind r f c = _ ↔ _
  cases hr : r c with
  | error d => simp [StateT.bind, bind, Except.bind, hr]
  | ok p =>
    obtain ⟨x, mid⟩ := p
    simp only [StateT.bind, bind, Except.bind, hr, Except.ok.injEq, Prod.mk.injEq]
    constructor
    · intro h
      exact .inr ⟨x, mid, ⟨rfl, rfl⟩, h⟩
    · intro hw
      rcases hw with h | ⟨_, _, ⟨rfl, rfl⟩, h⟩
      · cases h
      · exact h

/-- From a cursor in the input the reader gets to another one, or it fails for a reason that
holds. -/
structure Locates (data : List UInt8) (holds : ε → Prop) (r : StateT Cursor (Except ε) α) :
    Prop where
  within {c : Cursor} {x : α} {rest : Cursor} :
    c.Within data → r c = .ok (x, rest) → rest.Within data
  error {c : Cursor} {e : ε} : c.Within data → r c = .error e → holds e

variable {data : List UInt8} {holds : ε → Prop}

theorem Reads.locates {r : StateT Cursor (Except ε) α} {F : Format α} (h : Reads r F)
    (he : ∀ {c e}, c.Within data → r c = .error e → holds e) : Locates data holds r := by
  refine ⟨fun hc hr => ?_, he⟩
  obtain ⟨bs, -, hs⟩ := (h _ _ _).1 hr
  exact hc.spans hs

theorem locates_pure (x : α) : Locates data holds (pure x) :=
  (reads_pure x).locates fun _ hr => nomatch hr

theorem locates_fail {holds : Defect → Prop} {d : Defect} (h : holds d) :
    Locates data holds (fail d : Reader α) := by
  apply (reads_fail d).locates
  intro c e hc hr
  cases hr
  exact h

theorem Locates.bind {r : StateT Cursor (Except ε) α} {f : α → StateT Cursor (Except ε) β}
    (h : Locates data holds r) (hf : ∀ x, Locates data holds (f x)) :
    Locates data holds (r >>= f) := by
  constructor
  · intro c y rest hc hr
    obtain ⟨x, mid, hx, hy⟩ := bind_eq_ok.1 hr
    exact (hf x).within (h.within hc hx) hy
  · intro c e hc hr
    rcases bind_eq_error.1 hr with hr | ⟨x, mid, hx, hy⟩
    · exact h.error hc hr
    · exact (hf x).error (h.within hc hx) hy

theorem Locates.map {r : StateT Cursor (Except ε) α} (h : Locates data holds r) (f : α → β) :
    Locates data holds (f <$> r) := by
  rw [map_eq_pure_bind]
  exact h.bind fun x => locates_pure (f x)

theorem locates_repeated {step : Nat → StateT Cursor (Except ε) α}
    (h : ∀ i, Locates data holds (step i)) (n i : Nat) (done : List α) :
    Locates data holds (repeated step n i done) := by
  induction n generalizing i done with
  | zero => exact locates_pure _
  | succ n ih => exact (h i).bind fun x => ih (i + 1) (x :: done)

section

variable {limit : Nat}

theorem locates_byte : Locates data (Defect.HoldsIn limit data) byte := by
  apply reads_byte.locates
  intro c d hc hr
  unfold byte at hr
  split at hr
  · next hnil =>
    cases hr
    exact hc.underrun (by rw [hnil]; decide) limit
  · cases hr

theorem locates_position_byte {f : Nat → UInt8 → Reader α}
    (h : ∀ position b, data[position]? = some b →
      Locates data (Defect.HoldsIn limit data) (f position b)) :
    Locates data (Defect.HoldsIn limit data) (position >>= fun n => byte >>= f n) := by
  have hnext {c mid : Cursor} {b : UInt8} (hc : c.Within data) (hb : byte c = .ok (b, mid)) :
      mid.Within data ∧ Locates data (Defect.HoldsIn limit data) (f c.position b) := by
    obtain ⟨_, rfl, hs⟩ := (reads_byte _ _ _).1 hb
    exact ⟨hc.spans hs, h _ b (hc.next hs.unread)⟩
  constructor
  · intro c y rest hc hr
    obtain ⟨n, _, hn, hr⟩ := bind_eq_ok.1 hr
    cases hn
    obtain ⟨b, mid, hb, hr⟩ := bind_eq_ok.1 hr
    obtain ⟨hmid, hf⟩ := hnext hc hb
    exact hf.within hmid hr
  · intro c d hc hr
    rcases bind_eq_error.1 hr with hr | ⟨n, _, hn, hr⟩
    · cases hr
    · cases hn
      rcases bind_eq_error.1 hr with hr | ⟨b, mid, hb, hr⟩
      · exact locates_byte.error hc hr
      · obtain ⟨hmid, hf⟩ := hnext hc hb
        exact hf.error hmid hr

theorem locates_bytes (n : Nat) : Locates data (Defect.HoldsIn limit data) (bytes n) := by
  apply (reads_bytes n).locates
  intro c d hc hr
  unfold bytes at hr
  simp only [Int.toNat_natCast, holds_eq_true, Int.natCast_nonneg, true_and] at hr
  split at hr
  · cases hr
  · next hlt =>
    cases hr
    exact hc.underrun (by omega) limit

theorem locates_leb128 {value : Leb128.Scan → α} {F : Format α} (h : Reads (leb128 value) F) :
    Locates data (Defect.HoldsIn limit data) (leb128 value) := by
  apply h.locates
  intro c d hc hr
  unfold leb128 at hr
  split at hr
  · cases hr
    have hs : c.Spans c.unread (c.advance c.unread.length) := ⟨by simp, rfl⟩
    exact (hc.spans hs).underrun (by simp) limit
  · cases hr

theorem locates_u32 : Locates data (Defect.HoldsIn limit data) u32 := locates_leb128 reads_u32

theorem locates_s32 : Locates data (Defect.HoldsIn limit data) s32 := locates_leb128 reads_s32

theorem locates_vector {element : Reader α}
    (h : Locates data (Defect.HoldsIn limit data) element) :
    Locates data (Defect.HoldsIn limit data) (vector element) :=
  locates_u32.bind fun n => locates_repeated (fun _ => h) n.toNat 0 []

end

end Reader

end WasmScope

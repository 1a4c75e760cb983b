import WasmScope.Proofs.Grammar.Layout

namespace WasmScope

namespace Format

variable {α : Type}

def Begins (F : Format α) (bs : List UInt8) : Prop :=
  ∃ x front back, F front x ∧ bs = front ++ back

/-- Taking strings off the front ends after as many as are asked for, or where none begins. -/
theorem exists_many (F : Format α) (n : Nat) (bs : List UInt8) :
    ∃ front xs back, bs = front ++ back ∧ F.Many front xs ∧
      (xs.length = n ∨ (xs.length < n ∧ ¬ F.Begins back)) := by
  induction n generalizing bs with
  | zero => exact ⟨[], [], bs, rfl, .nil, .inl rfl⟩
  | succ n ih =>
    by_cases h : F.Begins bs
    · obtain ⟨x, front, rest, hx, rfl⟩ := h
      obtain ⟨middle, xs, back, rfl, hxs, hend⟩ := ih rest
      refine ⟨front ++ middle, x :: xs, back, (List.append_assoc ..).symm, .cons hx hxs, ?_⟩
      rw [List.length_cons, Nat.succ_inj, Nat.succ_lt_succ_iff]
      exact hend
    · exact ⟨[], [], bs, rfl, .nil, .inr ⟨Nat.succ_pos n, h⟩⟩

theorem Many.length_le {F : Format α} (hF : ∀ {bs x}, F bs x → bs ≠ []) {bs : List UInt8}
    {xs : List α} (h : F.Many bs xs) : xs.length ≤ bs.length := by
  induction h with
  | nil => exact Nat.le_refl 0
  | cons head tail ih =>
    have hfront := List.length_pos_iff.2 (hF head)
    rw [List.length_cons, List.length_append]
    omega

end Format

theorem Reader.Reads.error {ε α : Type} {r : StateT Cursor (Except ε) α} {F : Format α}
    (h : Reads r F) {c : Cursor} (hc : ¬ F.Begins c.unread) : ∃ e, r c = .error e := by
  cases hr : r c with
  | error e => exact ⟨e, rfl⟩
  | ok p =>
    obtain ⟨bs, hbs, hs⟩ := (h c p.1 p.2).1 hr
    exact absurd ⟨p.1, bs, p.2.unread, hbs, hs.unread⟩ hc

namespace Section

inductive Sized : Format (UInt32 × List UInt8)
  | mk {front content : List UInt8} {n : UInt32} (size : Leb128.Unsigned front n)
      (extent : n.toNat = content.length) : Sized (front ++ content) (n, content)

theorem sized_inj {front front' content content' : List UInt8} {n n' : UInt32}
    (size : Leb128.Unsigned front n) (size' : Leb128.Unsigned front' n')
    (h : front ++ content = front' ++ content') :
    front = front' ∧ content = content' ∧ n = n' := by
  obtain ⟨rfl, rfl⟩ := Reader.reads_u32.unambiguous size size' h
  exact ⟨rfl, List.append_cancel_left h, rfl⟩

end Section

/-- A section and how its size is written: the number of bytes that the size takes, and the size. -/
structure SectionRecord where
  layout : SectionLayout
  prefixLength : Nat
  size : UInt32
deriving DecidableEq, Repr

def SectionRecord.stop (r : SectionRecord) : Nat :=
  r.layout.start + 1 + r.prefixLength + r.size.toNat

inductive Section.Recorded (start : Nat) : Format SectionRecord
  | mk {x : SectionLayout} {front content : List UInt8} {n : UInt32}
      (size : Leb128.Unsigned front n) (extent : n.toNat = content.length)
      (laid : Laid start (x.content.id.byte :: (front ++ content)) x) :
      Recorded start (x.content.id.byte :: (front ++ content)) ⟨x, front.length, n⟩

inductive Module.Recorded : List UInt8 → Module → List SectionRecord → Prop
  | mk {bs : List UInt8} {rs : List SectionRecord} (version : FourBytes)
      (items : Format.Sequence Section.Recorded 8 bs rs) :
      Recorded (FourBytes.magic.toList ++ (version.toList ++ bs))
        ⟨.magic, version, rs.map (·.layout.content)⟩ rs

namespace Section

/-- The contents of a section of a known kind are not what its kind asks for. In a code section some
bodies are whole, and the first one that is not stands behind them. -/
inductive Broken (options : DecodeOptions) (start : Nat) :
    SectionId → List UInt8 → List BodyLayout → Prop
  | count {bs : List UInt8} (uncounted : ¬ Format.Begins Leb128.Unsigned bs) :
      Broken options start .code bs []
  | body {cs front back : List UInt8} {k : UInt32} {bodies : List BodyLayout}
      (count : Leb128.Unsigned cs k)
      (items : Format.Sequence FuncBody.Laid (start + cs.length) front bodies)
      (faultless : ∀ b ∈ bodies, b.fault options = none) (missing : bodies.length < k.toNat)
      (broken : ¬ Format.Begins (FuncBody.Written options) back) :
      Broken options start .code (cs ++ (front ++ back)) bodies
  | other {s : Section} {bs : List UInt8} (notCode : s.id ≠ .code)
      (broken : ¬ Format.Begins (fun bs s' => s'.id = s.id ∧ Content options bs s') bs) :
      Broken options start s.id bs []

variable {options : DecodeOptions} {start : Nat} {bs : List UInt8}

theorem Recorded.extent {r : SectionRecord} (h : Recorded start bs r) :
    r.layout.start = start ∧ r.stop = start + bs.length := by
  obtain ⟨size, extent, laid⟩ := h
  obtain ⟨hstart, -, -⟩ := laid.extent
  refine ⟨hstart, ?_⟩
  rw [SectionRecord.stop, hstart, extent, List.length_cons, List.length_append]
  dsimp only
  omega

theorem tiles_recorded {rs : List SectionRecord} (h : Format.Sequence Recorded start bs rs) :
    start :: rs.map (·.stop) = rs.map (·.layout.start) ++ [start + bs.length] :=
  h.tiles Recorded.extent

theorem written_iff_recorded {s : Section} :
    Written options bs s ↔ ∃ r, Recorded start bs r ∧ r.layout.content = s ∧
      ∀ b ∈ r.layout.bodies, b.fault options = none := by
  constructor
  · intro h
    have hlaid : ∃ x, Laid start bs x ∧ x.content = s ∧ _ := written_iff_laid.1 h
    obtain ⟨x, hx, rfl, hfaults⟩ := hlaid
    generalize hs : x.content = s at h
    obtain ⟨size, extent, content⟩ := h
    subst hs
    exact ⟨_, .mk size extent hx, rfl, hfaults⟩
  · intro h
    obtain ⟨_, ⟨size, extent, laid⟩, rfl, hfaults⟩ := h
    exact written_iff_laid.2 ⟨_, laid, rfl, hfaults⟩

theorem many_iff_recorded {ss : List Section} :
    Format.Many (Written options) bs ss ↔
      ∃ rs, Format.Sequence Recorded start bs rs ∧ rs.map (·.layout.content) = ss ∧
        ∀ r ∈ rs, ∀ b ∈ r.layout.bodies, b.fault options = none := by
  rw [Format.many_iff_sequence start]
  apply Format.sequence_iff
  intro start bs s
  exact written_iff_recorded

theorem Written.ne_nil {s : Section} (h : Written options bs s) : bs ≠ [] := by
  obtain ⟨_⟩ := h
  exact List.cons_ne_nil _ _

/-- The sections that are whole, up to the end or to a place where none begins. -/
theorem exists_many_recorded (options : DecodeOptions) (start : Nat) (bs : List UInt8) :
    ∃ front rs back, bs = front ++ back ∧ Format.Sequence Recorded start front rs ∧
      (∀ r ∈ rs, ∀ b ∈ r.layout.bodies, b.fault options = none) ∧
      ¬ Format.Begins (Written options) back := by
  obtain ⟨front, ss, back, rfl, hss, hend⟩ :=
    Format.exists_many (Written options) (bs.length + 1) bs
  obtain ⟨rs, hrs, rfl, hclear⟩ := many_iff_recorded.1 hss
  refine ⟨front, rs, back, rfl, hrs, hclear, ?_⟩
  rcases hend with hall | ⟨-, hback⟩
  · have hle := hss.length_le Written.ne_nil
    rw [hall, List.length_append] at hle
    omega
  · exact hback

theorem broken_of_not_begins (start : Nat) {s : Section}
    (h : ¬ Format.Begins (fun bs s' => s'.id = s.id ∧ Content options bs s') bs) :
    ∃ bodies, Broken options start s.id bs bodies := by
  by_cases hid : s.id = .code
  · by_cases hcount : Format.Begins Leb128.Unsigned bs
    · obtain ⟨k, cs, rest, count, rfl⟩ := hcount
      obtain ⟨front, fbs, back, rfl, hfbs, hend⟩ :=
        Format.exists_many (FuncBody.Written options) k.toNat rest
      rcases hend with hall | ⟨hlt, hback⟩
      · have entries : Format.Counted (FuncBody.Written options) (cs ++ front) fbs :=
          ⟨count, hall.symm, hfbs⟩
        exact absurd ⟨.code fbs, cs ++ front, back, ⟨hid.symm, .code entries⟩, by simp⟩ h
      · obtain ⟨xs, hxs, rfl, hfaults⟩ := FuncBody.many_iff_laid.1 hfbs
        rw [List.length_map] at hlt
        rw [hid]
        exact ⟨xs, .body count hxs hfaults hlt hback⟩
    · rw [hid]
      exact ⟨[], .count hcount⟩
  · exact ⟨[], .other hid h⟩

end Section

end WasmScope

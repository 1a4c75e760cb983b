import WasmScope.Proofs.Decode.Concat
import WasmScope.Proofs.Grammar.Layout

namespace WasmScope

theorem Reader.closedExpr_laid {c rest : Cursor} {bs : List UInt8} {e : Expr}
    {visits : List Visit} (h : Expr.Laid c.position bs e visits) (hs : c.Spans bs rest)
    (limit : Nat) :
    closedExpr { limit } c = Decode.answerTo limit visits (.ok (e, rest)) := by
  unfold Decode.answerTo
  cases hv : visits.find? (·.exceeds limit) with
  | none =>
    have hw := Expr.written_iff_laid.2 ⟨visits, h, Visit.find?_eq_none_iff.1 hv⟩
    exact (reads_closedExpr _ _ _ _).2 ⟨bs, hw, hs⟩
  | some v =>
    obtain ⟨code⟩ := h
    obtain ⟨mid, hcode, -⟩ := hs.split
    refine bind_eq_error.2 (.inl ?_)
    have hrun := Decode.runs_laid { limit } code .start _ _ rfl rfl hcode
    rw [Decode.answerTo, hv] at hrun
    exact hrun

namespace Decode

variable {options : DecodeOptions} {start i : Nat} {bs : List UInt8} {c rest : Cursor} {d : Defect}

theorem bodyContent_fault {fb : FuncBody} {ls es trailing : List UInt8} {visits : List Visit}
    (locals : Format.Counted LocalEntry.Written ls fb.locals)
    (code : Expr.Laid (start + ls.length) es fb.body visits)
    (hd : BodyLayout.fault options ⟨fb, visits, start + ls.length + es.length, trailing.length⟩ =
      some d) :
    bodyContent options fb.size ⟨start, ls ++ (es ++ trailing)⟩ = .error d := by
  have hlocals := (Reader.reads_vector Reader.reads_localEntry _ _ _).2
    ⟨ls, locals, Cursor.spans_front start ls (es ++ trailing)⟩
  have hcode := Reader.closedExpr_laid code
    (Cursor.spans_front (start + ls.length) es trailing) options.maxNesting
  refine Reader.bind_eq_error.2 (.inr ⟨_, _, hlocals, Reader.bind_eq_error.2 ?_⟩)
  unfold answerTo at hcode
  unfold BodyLayout.fault at hd
  split at hd
  · next v hv =>
    cases hd
    rw [hv] at hcode
    exact .inl hcode
  · next hv =>
    rw [hv] at hcode
    split at hd
    · next hloose =>
      cases hd
      have hempty : ¬ trailing.isEmpty = true := by
        rw [List.isEmpty_iff]
        exact List.length_pos_iff.1 hloose.2
      exact .inr ⟨_, _, hcode, (if_neg hempty).trans (if_pos hloose.1)⟩
    · cases hd

theorem placedBody_fault {x : BodyLayout} (h : FuncBody.Laid c.position bs x)
    (hs : c.Spans bs rest) (hd : x.fault options = some d) :
    placedBody options i c = .error ⟨[.body i], d⟩ := by
  cases h with
  | @mk fb front ls es trailing visits size extent locals code =>
    obtain ⟨mid, hfront, hregion⟩ := hs.split
    have hsize := (Reader.reads_u32 _ _ _).2 ⟨front, size, hfront⟩
    have hregion := Reader.region_natCast_eq_ok_iff.2 ⟨_, extent.symm, rfl, hregion⟩
    rw [← hfront.position] at code hd
    have hbody : body options c = .error d := by
      refine Reader.bind_eq_error.2 (.inr ⟨_, _, hsize, Reader.bind_eq_error.2 (.inr ⟨_, _, hregion,
        ?_⟩)⟩)
      rw [bodyContent_fault locals code hd]
      rfl
    exact Reader.bind_eq_error.2 (.inl (except_mapError_eq_error.2 ⟨_, hbody, rfl⟩))

theorem repeated_fault {xs : List BodyLayout} (h : Format.Sequence FuncBody.Laid start bs xs)
    (hc : c.position = start) (hs : c.Spans bs rest)
    (hd : xs.findSome? (·.fault options) = some d) (done : List FuncBody) :
    ∃ j, Reader.repeated (placedBody options) xs.length i done c = .error ⟨[.body j], d⟩ := by
  induction h generalizing c i done with
  | nil => cases hd
  | @cons start front back x xs head tail ih =>
    subst hc
    obtain ⟨mid, hfront, hback⟩ := hs.split
    rw [List.findSome?_cons] at hd
    cases hx : x.fault options with
    | some d' =>
      rw [hx] at hd
      cases hd
      exact ⟨i, Reader.bind_eq_error.2 (.inl (placedBody_fault head hfront hx))⟩
    | none =>
      rw [hx] at hd
      have hw : FuncBody.Written options front x.body :=
        FuncBody.written_iff_laid.2 ⟨x, head, rfl, hx⟩
      have hread := (reads_placedBody options i _ _ _).2 ⟨front, hw, hfront⟩
      obtain ⟨j, hj⟩ := ih hfront.position hback hd (x.body :: done)
      exact ⟨j, Reader.bind_eq_error.2 (.inr ⟨_, _, hread, hj⟩)⟩

theorem sectionList_fault {x : SectionLayout} {more : List UInt8}
    (h : Section.Laid c.position bs x) (hc : c.unread = bs ++ more)
    (hd : x.bodies.findSome? (·.fault options) = some d) :
    ∃ places, sectionList options c = .error ⟨places, d⟩ := by
  cases h with
  | other written id => cases hd
  | @code front cs bs trailing n k bodies size extent count length items =>
    rw [List.append_assoc] at extent hc
    have hcount := (reads_placed Reader.reads_u32 [] _ _ _).2 ⟨cs, count,
      Cursor.spans_front (c.position + 1 + front.length) cs (bs ++ trailing)⟩
    have hspan := Cursor.spans_front (c.position + 1 + front.length + cs.length) bs trailing
    obtain ⟨j, hj⟩ := repeated_fault (i := 0) items rfl hspan hd []
    have hanswer : SectionFrame.answer options ⟨.code, c.position, n,
        ⟨c.position + 1 + front.length, cs ++ (bs ++ trailing)⟩⟩ =
        .error ⟨[.content .code, .body j], d⟩ := by
      refine except_mapError_eq_error.2 ⟨⟨[.body j], d⟩, except_map_eq_error.2 ?_, rfl⟩
      refine Reader.bind_eq_error.2 (.inr ⟨k, _, hcount, Reader.bind_eq_error.2 (.inl ?_)⟩)
      rw [length]
      exact hj
    rw [sectionList_cons hc (sectionFrame_front size extent c.position more), hanswer]
    exact ⟨_, rfl⟩

theorem sequence_fault {xs : List SectionLayout} (h : Format.Sequence Section.Laid start bs xs)
    (hd : (xs.flatMap (·.bodies)).findSome? (·.fault options) = some d) :
    ∃ places, sectionList options ⟨start, bs⟩ = .error ⟨places, d⟩ := by
  induction h with
  | nil => cases hd
  | @cons start front back x xs head tail ih =>
    rw [List.flatMap_cons, List.findSome?_append] at hd
    cases hx : x.bodies.findSome? (·.fault options) with
    | some d' =>
      rw [hx] at hd
      cases hd
      exact sectionList_fault (c := ⟨start, front ++ back⟩) head rfl hx
    | none =>
      rw [hx] at hd
      have hw : Section.Written options front x.content :=
        Section.written_iff_laid.2 ⟨x, head, rfl, List.findSome?_eq_none_iff.1 hx⟩
      obtain ⟨places, hplaces⟩ := ih hd
      rw [sectionList_written (c := ⟨start, front ++ back⟩) hw rfl, hplaces]
      exact ⟨places, rfl⟩

end Decode

/-- An input that is laid out is decoded up to the first body that is at fault. -/
theorem Module.decode_fault {options : DecodeOptions} {data : List UInt8} {m : Module}
    {layout : List SectionLayout} {d : Defect} (h : Laid data m layout)
    (hd : (layout.flatMap (·.bodies)).findSome? (·.fault options) = some d) :
    ∃ places, decode options data = .error ⟨places, d⟩ := by
  obtain ⟨version, items⟩ := h
  obtain ⟨places, hplaces⟩ := Decode.sequence_fault items hd
  rw [← List.append_assoc, decode_header, hplaces]
  exact ⟨places, rfl⟩

end WasmScope

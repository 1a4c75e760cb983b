import WasmScope.Proofs.Decode.Concat

namespace WasmScope

namespace DecodeFailure

def offset (f : DecodeFailure) : Int := f.defect.report.offset

theorem MovedBy.le_offset {n : Nat} {f f' : DecodeFailure} (h : f.MovedBy n f') :
    n ≤ f'.offset := by
  have hnonneg := f.defect.offset_nonneg
  have hreport : f'.defect.report.offset = f.defect.report.offset + n := by rw [h.report]
  rw [offset, hreport]
  omega

end DecodeFailure

namespace Decode

theorem onward_placedBody (options : DecodeOptions) (i : Nat) :
    Reader.Onward DecodeFailure.offset (placedBody options i) :=
  Reader.onward_of_shifts (fun _ => shifts_placedBody options i) DecodeFailure.MovedBy.le_offset

theorem le_sectionList_offset {options : DecodeOptions} {c : Cursor} {f : DecodeFailure}
    (h : sectionList options c = .error f) : c.position ≤ f.offset := by
  cases hstart : sectionList options (.ofBytes c.unread) with
  | ok ss =>
    have hsections := sectionList_eq_ok_iff.1 hstart
    cases h.symm.trans (sectionList_eq_ok_iff.2 hsections)
  | error f₀ =>
    obtain ⟨f', hf', hmoved⟩ := sectionList_shift hstart c.position
    rw [Cursor.shift_ofBytes, h] at hf'
    cases hf'
    exact hmoved.le_offset

theorem preempts_placed {α : Type} {r r' : Reader α} {early : Defect → Prop}
    (h : Reader.Preempts (fun d => d.report.offset) early r r') (places : List Place) :
    Reader.Preempts DecodeFailure.offset (fun f => early f.defect) (placed places r)
      (placed places r') := by
  intro c
  rcases h c with hsame | ⟨d, hd, hearly, hok, herror⟩
  · left
    rw [placed, placed, hsame]
  · refine .inr ⟨⟨places, d⟩, except_mapError_eq_error.2 ⟨d, hd, rfl⟩, hearly, ?_, ?_⟩
    · intro x rest hx
      exact hok x rest (placed_eq_ok_iff.1 hx)
    · intro f hf
      obtain ⟨d', hd', rfl⟩ := except_mapError_eq_error.1 hf
      exact herror d' hd'

/-- Bodies are read alike with both options, or the second ones refuse them early. -/
def BodiesPreempt (early : Defect → Prop) (o o' : DecodeOptions) : Prop :=
  ∀ i, Reader.Preempts DecodeFailure.offset (fun f => early f.defect) (placedBody o i)
    (placedBody o' i)

namespace BodiesPreempt

variable {o o' : DecodeOptions} {early : Defect → Prop}

theorem content (h : BodiesPreempt early o o') (id : SectionId) :
    (placedContent o id = none ∧ placedContent o' id = none) ∨
      ∃ r r', placedContent o id = some r ∧ placedContent o' id = some r' ∧
        Reader.Preempts DecodeFailure.offset (fun f => early f.defect) r r' := by
  obtain ⟨b⟩ := id
  unfold placedContent
  dsimp only
  split
  · exact .inr ⟨_, _, rfl, rfl, Reader.preempts_self _⟩
  · exact .inr ⟨_, _, rfl, rfl, Reader.preempts_self _⟩
  · exact .inr ⟨_, _, rfl, rfl, Reader.preempts_self _⟩
  · refine .inr ⟨_, _, rfl, rfl, (Reader.preempts_self _).bind (fun count => ?_) fun count => ?_⟩
    · apply (Reader.preempts_repeated h (onward_placedBody _) _ _ _).bind
      · exact fun _ => Reader.preempts_self _
      · exact fun _ => Reader.onward_pure _
    · apply (Reader.onward_repeated (onward_placedBody _) _ _ _).bind
      exact fun _ => Reader.onward_pure _
  · exact .inl ⟨rfl, rfl⟩

theorem answer (h : BodiesPreempt early o o') (frame : SectionFrame) :
    frame.answer o' = frame.answer o ∨ ∃ f, frame.answer o' = .error f ∧ early f.defect ∧
      (∀ s, frame.answer o = .ok s →
        f.offset < frame.content.position + frame.content.unread.length) ∧
      ∀ f', frame.answer o = .error f' → f.offset < f'.offset := by
  unfold SectionFrame.answer
  rcases h.content frame.id with ⟨h, h'⟩ | ⟨r, r', h, h', hr⟩
  · rw [h, h']
    exact .inl rfl
  · rw [h, h']
    dsimp only
    rcases hr frame.content with hsame | ⟨f, hf, hearly, hok, herror⟩
    · rw [hsame]
      exact .inl rfl
    · refine .inr ⟨f.within (.content frame.id), ?_, hearly, ?_, ?_⟩
      · exact except_mapError_eq_error.2 ⟨f, except_map_eq_error.2 hf, rfl⟩
      · intro s hs
        obtain ⟨⟨_, rest⟩, hread, rfl⟩ := except_map_eq_ok.1 (except_mapError_eq_ok.1 hs)
        obtain ⟨bs, -, hspan⟩ := (reads_placedContent h _ _ _).1 hread
        have hbefore := hok _ _ hread
        have hrest := hspan.position
        have hlength := congrArg List.length hspan.unread
        rw [List.length_append] at hlength
        change f.offset < _
        omega
      · intro f' hf'
        obtain ⟨d, hd, rfl⟩ := except_mapError_eq_error.1 hf'
        exact herror d (except_map_eq_error.1 hd)

theorem sections {c : Cursor} {f : DecodeFailure} (hbodies : BodiesPreempt early o o')
    (h : sectionList o c = .error f) :
    sectionList o' c = .error f ∨
      ∃ f', sectionList o' c = .error f' ∧ early f'.defect ∧ f'.offset < f.offset := by
  fun_induction sectionList o c with
  | case1 => cases h
  | case2 c id after hunread f₀ hframe =>
    cases h
    exact .inl (sectionList_error hunread hframe)
  | case3 c id after hunread frame rest hframe _ ih =>
    rw [sectionList_cons hunread hframe]
    rcases hbodies.answer frame with hsame | ⟨f', hf', hearly, hok, herror⟩
    · rw [hsame]
      rcases except_bind_eq_error.1 h with h | ⟨s, hs, h⟩
      · exact .inl (except_bind_eq_error.2 (.inl h))
      · rw [hs]
        rcases ih (except_map_eq_error.1 h) with hrest | ⟨f', hf', hearly, hlt⟩
        · exact .inl (except_map_eq_error.2 hrest)
        · exact .inr ⟨f', except_map_eq_error.2 hf', hearly, hlt⟩
    · refine .inr ⟨f', except_bind_eq_error.2 (.inl hf'), hearly, ?_⟩
      rcases except_bind_eq_error.1 h with h | ⟨s, hs, h⟩
      · exact herror f h
      · -- with the first options decoding fails behind this section
        have hafter := le_sectionList_offset (except_map_eq_error.1 h)
        have hbefore := hok s hs
        obtain ⟨-, -, front, bs, -, -, hcontent, hspan⟩ := sectionFrame_eq_ok_iff.1 hframe
        have hend := hspan.position
        rw [hcontent] at hbefore
        rw [List.length_append] at hend
        dsimp only at hbefore hend
        omega

end BodiesPreempt

end Decode

/-- A failure with the first options is one with the second ones too, unless these fail further in
front. -/
theorem Module.decode_preempted {o o' : DecodeOptions} {early : Defect → Prop} {data : List UInt8}
    {f : DecodeFailure} (hbodies : Decode.BodiesPreempt early o o')
    (h : decode o data = .error f) :
    decode o' data = .error f ∨
      ∃ f', decode o' data = .error f' ∧ early f'.defect ∧ f'.offset < f.offset := by
  rw [decode_eq_answer, answer] at h ⊢
  rcases except_bind_eq_error.1 h with h | ⟨⟨magic, c₁⟩, h₁, h⟩
  · exact .inl (except_bind_eq_error.2 (.inl h))
  by_cases hmagic : magic = .magic
  · rw [h₁]
    dsimp only [Except.bind] at h ⊢
    rw [if_pos hmagic] at h ⊢
    rcases except_bind_eq_error.1 h with h | ⟨⟨version, c₂⟩, h₂, h⟩
    · exact .inl (except_bind_eq_error.2 (.inl h))
    rw [h₂]
    rcases hbodies.sections (except_map_eq_error.1 h) with h | ⟨f', hf', hlt⟩
    · exact .inl (except_map_eq_error.2 h)
    · exact .inr ⟨f', except_map_eq_error.2 hf', hlt⟩
  · refine .inl (except_bind_eq_error.2 (.inr ⟨_, h₁, ?_⟩))
    dsimp only at h ⊢
    rw [if_neg hmagic] at h ⊢
    exact h

end WasmScope

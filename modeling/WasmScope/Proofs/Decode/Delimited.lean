import WasmScope.Proofs.Decode.Truncation

namespace WasmScope

namespace Cursor

variable {c rest : Cursor} {bs : List UInt8}

def followedBy (c : Cursor) (more : List UInt8) : Cursor := ⟨c.position, c.unread ++ more⟩

theorem Spans.followedBy (h : c.Spans bs rest) (more : List UInt8) :
    (c.followedBy more).Spans bs (rest.followedBy more) := by
  refine ⟨?_, h.position⟩
  rw [Cursor.followedBy, Cursor.followedBy, h.unread, List.append_assoc]

end Cursor

namespace Reader

variable {α β : Type} {r : Reader α}

/-- Success is success on the bytes that were taken, whatever follows them there. A failure is for
want of bytes, or it stays the same whatever follows. -/
structure Delimits (r : Reader α) : Prop where
  ok {c rest : Cursor} {x : α} : r c = .ok (x, rest) → ∃ bs, c.Spans bs rest ∧
    ∀ c' rest', c'.position = c.position → c'.Spans bs rest' → r c' = .ok (x, rest')
  error {c : Cursor} {d : Defect} : r c = .error d → d.report.kind = .bufferUnderrun ∨
    ∀ more, r (c.followedBy more) = .error d

theorem Reads.delimits {F : Format α} (h : Reads r F)
    (he : ∀ {c d}, r c = .error d → d.report.kind = .bufferUnderrun ∨
      ∀ more, r (c.followedBy more) = .error d) : Delimits r := by
  refine ⟨fun hr => ?_, he⟩
  obtain ⟨bs, hw, hs⟩ := (h _ _ _).1 hr
  exact ⟨bs, hs, fun c' rest' _ hs' => (h _ _ _).2 ⟨bs, hw, hs'⟩⟩

theorem Delimits.followedBy (h : Delimits r) {c rest : Cursor} {x : α}
    (hr : r c = .ok (x, rest)) (more : List UInt8) :
    r (c.followedBy more) = .ok (x, rest.followedBy more) := by
  obtain ⟨bs, hs, hsame⟩ := h.ok hr
  exact hsame _ _ rfl (hs.followedBy more)

/-- A beginning of what was taken is too short: if it sufficed, or failed for another reason, the
whole would have been read otherwise. -/
theorem Delimits.cut (h : Delimits r) {c rest : Cursor} {x : α} {bs : List UInt8} {j : Nat}
    (hr : r c = .ok (x, rest)) (hs : c.Spans bs rest) (hj : j < bs.length) :
    ∃ d, r ⟨c.position, bs.take j⟩ = .error d ∧ d.report.kind = .bufferUnderrun := by
  have hwhole : Cursor.followedBy ⟨c.position, bs.take j⟩ (bs.drop j ++ rest.unread) = c := by
    rw [Cursor.followedBy, ← List.append_assoc, List.take_append_drop, ← hs.unread]
  cases hcut : r ⟨c.position, bs.take j⟩ with
  | error d =>
    rcases h.error hcut with hunder | hfinal
    · exact ⟨d, rfl, hunder⟩
    · have hfails := hfinal (bs.drop j ++ rest.unread)
      rw [hwhole, hr] at hfails
      cases hfails
  | ok p =>
    obtain ⟨y, rest'⟩ := p
    have hreads := h.followedBy hcut (bs.drop j ++ rest.unread)
    rw [hwhole, hr] at hreads
    -- what was cut off would be left unread by the whole
    have hlength := congrArg (fun p => p.2.unread.length) (Except.ok.inj hreads)
    simp only [Cursor.followedBy, List.length_append, List.length_drop] at hlength
    omega

theorem delimits_pure (x : α) : Delimits (pure x : Reader α) :=
  (reads_pure x).delimits fun hr => nomatch hr

theorem delimits_fail (d : Defect) : Delimits (fail d : Reader α) := by
  apply (reads_fail d).delimits
  intro c d' hr
  cases hr
  exact .inr fun _ => rfl

theorem delimits_position : Delimits position := by
  constructor
  · intro c rest n hr
    cases hr
    refine ⟨[], Cursor.spans_nil.2 rfl, ?_⟩
    intro c' rest' hposition hs
    obtain rfl := Cursor.spans_nil.1 hs
    rw [← hposition]
    rfl
  · intro c d hr
    cases hr

theorem Delimits.bind {f : α → Reader β} (h : Delimits r) (hf : ∀ x, Delimits (f x)) :
    Delimits (r >>= f) := by
  constructor
  · intro c rest y hr
    obtain ⟨x, mid, hx, hy⟩ := bind_eq_ok.1 hr
    obtain ⟨front, hfront, hfirst⟩ := h.ok hx
    obtain ⟨back, hback, hsecond⟩ := (hf x).ok hy
    refine ⟨front ++ back, hfront.append hback, ?_⟩
    intro c' rest' hposition hs
    obtain ⟨mid', hfront', hback'⟩ := hs.split
    have hmid : mid'.position = mid.position := by
      rw [hfront'.position, hfront.position, hposition]
    exact bind_eq_ok.2 ⟨x, mid', hfirst _ _ hposition hfront', hsecond _ _ hmid hback'⟩
  · intro c d hr
    rcases bind_eq_error.1 hr with hr | ⟨x, mid, hx, hy⟩
    · rcases h.error hr with hunder | hfinal
      · exact .inl hunder
      · exact .inr fun more => bind_eq_error.2 (.inl (hfinal more))
    · rcases (hf x).error hy with hunder | hfinal
      · exact .inl hunder
      · exact .inr fun more =>
          bind_eq_error.2 (.inr ⟨x, _, h.followedBy hx more, hfinal more⟩)

theorem delimits_repeated {step : Nat → Reader α} (h : ∀ i, Delimits (step i)) (n i : Nat)
    (done : List α) : Delimits (repeated step n i done) := by
  induction n generalizing i done with
  | zero => exact delimits_pure _
  | succ n ih => exact (h i).bind fun x => ih (i + 1) (x :: done)

theorem delimits_byte : Delimits byte := by
  apply reads_byte.delimits
  intro c d hr
  unfold byte at hr
  split at hr
  · cases hr
    exact .inl rfl
  · cases hr

theorem delimits_bytes (n : Nat) : Delimits (bytes n) := by
  apply (reads_bytes n).delimits
  intro c d hr
  unfold bytes at hr
  split at hr
  · cases hr
  · cases hr
    exact .inl rfl

theorem delimits_region (n : Nat) : Delimits (region n) := by
  constructor
  · intro c rest x hr
    obtain ⟨bs, hlength, rfl, hs⟩ := region_natCast_eq_ok_iff.1 hr
    refine ⟨bs, hs, fun c' rest' hposition hs' => ?_⟩
    rw [← hposition]
    exact region_natCast_eq_ok_iff.2 ⟨bs, hlength, rfl, hs'⟩
  · intro c d hr
    exact .inl (Decode.region_error hr)

theorem delimits_u32 : Delimits u32 := reads_u32.delimits fun hr => .inl (Decode.leb128_error hr)

theorem delimits_s32 : Delimits s32 := reads_s32.delimits fun hr => .inl (Decode.leb128_error hr)

theorem delimits_vector (h : Delimits r) : Delimits (vector r) :=
  delimits_u32.bind fun count => delimits_repeated (fun _ => h) count.toNat 0 []

theorem delimits_name : Delimits name := by
  apply delimits_u32.bind
  intro length
  apply delimits_position.bind
  intro position
  apply (delimits_bytes length.toNat).bind
  intro data
  cases String.fromUTF8? data.toByteArray with
  | some s => exact delimits_pure s
  | none => exact delimits_fail _

theorem delimits_valType : Delimits valType := by
  apply delimits_position.bind
  intro position
  apply delimits_byte.bind
  intro tag
  split
  · exact delimits_pure _
  · exact delimits_fail _

theorem delimits_localEntry : Delimits localEntry :=
  delimits_u32.bind fun _ => delimits_valType.bind fun _ => delimits_pure _

theorem delimits_exportEntry : Delimits exportEntry :=
  delimits_name.bind fun _ => delimits_byte.bind fun _ => delimits_u32.bind fun _ =>
    delimits_pure _

theorem delimits_funcType : Delimits funcType := by
  have htypes := delimits_vector delimits_valType
  apply delimits_position.bind
  intro position
  apply delimits_byte.bind
  intro tag
  split
  · exact htypes.bind fun _ => htypes.bind fun _ => delimits_pure _
  · exact delimits_fail _

theorem delimits_blockType : Delimits blockType := by
  apply reads_blockType.delimits
  intro c d hr
  unfold blockType at hr
  split at hr
  · next hlead =>
    cases hr
    rcases delimits_byte.error hlead with hunder | hfinal
    · exact .inl hunder
    · exact .inr fun more => by rw [blockType, hfinal more]
  · next lead rest hlead =>
    split at hr
    · cases hr
    · next hempty =>
      split at hr
      · cases hr
      · next hvalue =>
        split at hr
        · next hindex =>
          cases hr
          exact .inl (Decode.leb128_error hindex)
        · next hindex =>
          split at hr
          · next hneg =>
            cases hr
            refine .inr fun more => ?_
            simp only [blockType, delimits_byte.followedBy hlead more, if_neg hempty,
              if_neg hvalue, delimits_s32.followedBy hindex more, if_pos hneg]
            rfl
          · cases hr

end Reader

namespace Decode

variable {nesting : Nesting} {p : Pending}

theorem delimits_immediates (nesting : Nesting) (p : Pending) (position : Nat) (code : UInt8) :
    Reader.Delimits (immediates nesting p position code) := by
  unfold immediates
  cases form code with
  | simple i => exact Reader.delimits_pure _
  | indexed make => exact Reader.delimits_u32.bind fun _ => Reader.delimits_pure _
  | constant make => exact Reader.delimits_s32.bind fun _ => Reader.delimits_pure _
  | opening frame =>
    dsimp only
    split
    · exact Reader.delimits_fail _
    · exact Reader.delimits_blockType.bind fun _ => Reader.delimits_pure _
  | otherwise =>
    dsimp only
    split
    · exact Reader.delimits_pure _
    · exact Reader.delimits_fail _
  | close => exact Reader.delimits_pure _
  | undefined => exact Reader.delimits_fail _

theorem delimits_step (nesting : Nesting) (p : Pending) : Reader.Delimits (step nesting p) :=
  Reader.delimits_position.bind fun position => Reader.delimits_byte.bind fun code =>
    delimits_immediates nesting p position code

theorem resume_final {c : Cursor} {d : Defect} (h : resume nesting p c = .error d) :
    d.report.kind = .bufferUnderrun ∨ ∀ more, resume nesting p (c.followedBy more) = .error d := by
  fun_induction resume nesting p c with
  | case1 p c d' hstep =>
    cases h
    rcases (delimits_step nesting p).error hstep with hunder | hfinal
    · exact .inl hunder
    · exact .inr fun more => resume_error (hfinal more)
  | case2 p c e rest hstep => cases h
  | case3 p c p' rest hstep _ ih =>
    obtain ⟨bs, hm, hs⟩ := (reads_step nesting p c _ _).1 hstep
    rcases ih h with hunder | hfinal
    · exact .inl hunder
    · refine .inr fun more => ?_
      rw [resume_more hm (hs.followedBy more)]
      exact hfinal more

end Decode

namespace Reader

theorem delimits_expr (nesting : Decode.Nesting) : Delimits (expr nesting) :=
  (reads_expr nesting).delimits Decode.resume_final

theorem delimits_closedExpr (nesting : Decode.Nesting) : Delimits (closedExpr nesting) := by
  apply (delimits_expr nesting).bind
  intro e
  apply delimits_position.bind
  intro position
  split
  · exact delimits_fail _
  · exact delimits_pure _

end Reader

namespace Decode

/-- A body is read in a region of its own, so what is wrong inside it is wrong whatever follows. -/
theorem delimits_body (options : DecodeOptions) : Reader.Delimits (body options) := by
  apply Reader.delimits_u32.bind
  intro size
  apply (Reader.delimits_region size.toNat).bind
  intro region
  cases bodyContent options size region with
  | error d => exact Reader.delimits_fail d
  | ok p => exact Reader.delimits_pure p.1

/-- The readers of the parts of a module, with any options and at any depth, and those of vectors of
such parts. -/
inductive PartReader : {α : Type} → Reader α → Prop
  | u32 : PartReader Reader.u32
  | s32 : PartReader Reader.s32
  | name : PartReader Reader.name
  | valType : PartReader Reader.valType
  | blockType : PartReader Reader.blockType
  | funcType : PartReader Reader.funcType
  | exportEntry : PartReader Reader.exportEntry
  | localEntry : PartReader Reader.localEntry
  | body (options : DecodeOptions) : PartReader (body options)
  | expr (nesting : Nesting) : PartReader (Reader.expr nesting)
  | closedExpr (nesting : Nesting) : PartReader (Reader.closedExpr nesting)
  | vector {α : Type} {element : Reader α} (part : PartReader element) :
      PartReader (Reader.vector element)

namespace PartReader

variable {α : Type} {r : Reader α}

theorem delimits (h : PartReader r) : Reader.Delimits r := by
  induction h with
  | u32 => exact Reader.delimits_u32
  | s32 => exact Reader.delimits_s32
  | name => exact Reader.delimits_name
  | valType => exact Reader.delimits_valType
  | blockType => exact Reader.delimits_blockType
  | funcType => exact Reader.delimits_funcType
  | exportEntry => exact Reader.delimits_exportEntry
  | localEntry => exact Reader.delimits_localEntry
  | body options => exact delimits_body options
  | expr nesting => exact Reader.delimits_expr nesting
  | closedExpr nesting => exact Reader.delimits_closedExpr nesting
  | vector _ ih => exact Reader.delimits_vector ih

theorem fails_nil (h : PartReader r) (position : Nat) : ∃ d, r ⟨position, []⟩ = .error d := by
  have hexpr (nesting : Nesting) : ∃ d, Reader.expr nesting ⟨position, []⟩ = .error d :=
    ⟨_, resume_error rfl⟩
  cases h with
  | u32 => exact ⟨_, rfl⟩
  | s32 => exact ⟨_, rfl⟩
  | name => exact ⟨_, rfl⟩
  | valType => exact ⟨_, rfl⟩
  | blockType => exact ⟨_, rfl⟩
  | funcType => exact ⟨_, rfl⟩
  | exportEntry => exact ⟨_, rfl⟩
  | localEntry => exact ⟨_, rfl⟩
  | body options => exact ⟨_, rfl⟩
  | expr nesting => exact hexpr nesting
  | closedExpr nesting =>
    obtain ⟨d, hd⟩ := hexpr nesting
    exact ⟨d, Reader.bind_eq_error.2 (.inl hd)⟩
  | vector => exact ⟨_, rfl⟩

/-- A part that is read takes at least one byte. Behind the bytes that it takes there may be any
others, with the same outcome, and of these bytes none can be missing: a strict beginning of them
fails for want of bytes. -/
theorem self_delimiting (h : PartReader r) {position : Nat} {xs : List UInt8} {x : α}
    {rest : Cursor} (hr : r ⟨position, xs⟩ = .ok (x, rest)) :
    ∃ k, 1 ≤ k ∧ k ≤ xs.length ∧ rest = ⟨position + k, xs.drop k⟩ ∧
      (∀ ys, r ⟨position, xs.take k ++ ys⟩ = .ok (x, ⟨position + k, ys⟩)) ∧
      ∀ j < k, ∃ d, r ⟨position, xs.take j⟩ = .error d ∧ d.report.kind = .bufferUnderrun := by
  obtain ⟨bs, hs, hsame⟩ := h.delimits.ok hr
  have hfollowed (ys : List UInt8) :
      r ⟨position, bs ++ ys⟩ = .ok (x, ⟨position + bs.length, ys⟩) :=
    hsame _ _ rfl (Cursor.spans_front position bs ys)
  have hne : bs ≠ [] := by
    rintro rfl
    obtain ⟨d, hd⟩ := h.fails_nil position
    cases hd.symm.trans (hfollowed [])
  have hxs : xs = bs ++ rest.unread := hs.unread
  refine ⟨bs.length, List.length_pos_iff.2 hne, ?_, ?_, ?_, ?_⟩
  · rw [hxs, List.length_append]
    exact Nat.le_add_right _ _
  · rw [hxs, List.drop_left]
    exact hs.unique ⟨hxs, rfl⟩
  · intro ys
    rw [hxs, List.take_left]
    exact hfollowed ys
  · intro j hj
    rw [hxs, List.take_append_of_le_length (Nat.le_of_lt hj)]
    exact h.delimits.cut hr hs hj

/-- A vector of one body that its expression does not fill, its size written in two bytes. -/
theorem self_delimiting_bodies :
    let r := Reader.vector (Decode.body ⟨false, 1⟩)
    let xs : List UInt8 := [0x01, 0x84, 0x00, 0x00, 0x0B, 0xAA, 0xBB, 0xFF]
    let bodies : List BodyRead := [⟨⟨4, [], .close .close⟩, some (10, 2)⟩]
    r ⟨5, xs⟩ = .ok (bodies, ⟨12, [0xFF]⟩) ∧
      ∃ k, 1 ≤ k ∧ k ≤ xs.length ∧ (⟨12, [0xFF]⟩ : Cursor) = ⟨5 + k, xs.drop k⟩ ∧
        (∀ ys, r ⟨5, xs.take k ++ ys⟩ = .ok (bodies, ⟨5 + k, ys⟩)) ∧
        ∀ j < k, ∃ d, r ⟨5, xs.take j⟩ = .error d ∧ d.report.kind = .bufferUnderrun := by
  intro r xs bodies
  have hr : r ⟨5, xs⟩ = .ok (bodies, ⟨12, [0xFF]⟩) := by decide +kernel
  exact ⟨hr, self_delimiting (.vector (.body ⟨false, 1⟩)) hr⟩

end PartReader

end Decode

end WasmScope

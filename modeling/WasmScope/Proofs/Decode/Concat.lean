import WasmScope.Proofs.Binary.Compare
import WasmScope.Proofs.Grammar.Module

namespace WasmScope

/-- The second failure is reported as the first one is, `n` positions further on. -/
structure DecodeFailure.MovedBy (n : Nat) (f f' : DecodeFailure) : Prop where
  places : f'.places = f.places
  report : f.defect.MovedBy n f'.defect

theorem DecodeFailure.MovedBy.within {n : Nat} {f f' : DecodeFailure} (h : f.MovedBy n f')
    (place : Decode.Place) : (f.within place).MovedBy n (f'.within place) :=
  ⟨congrArg (List.cons place) h.places, h.report⟩

namespace Reader

variable {n : Nat}

theorem shifts_name : Shifts n (Defect.MovedBy n) name name := by
  apply reads_name.shifts reads_name
  intro c d hr
  rcases bind_eq_error.1 hr with hr | ⟨size, mid, hsize, hr⟩
  · obtain ⟨d', hd', hmoved⟩ := shifts_u32.error hr
    exact ⟨d', bind_eq_error.2 (.inl hd'), hmoved⟩
  rcases bind_eq_error.1 hr with hr | ⟨position, _, hposition, hr⟩
  · cases hr
  cases hposition
  -- behind the size, the bytes are read and only then checked
  have hrest {d' : Defect} (hd' : _ = Except.error d') : name (c.shift n) = .error d' :=
    bind_eq_error.2 (.inr ⟨size, mid.shift n, shifts_u32.ok hsize,
      bind_eq_error.2 (.inr ⟨mid.position + n, mid.shift n, rfl, hd'⟩)⟩)
  rcases bind_eq_error.1 hr with hr | ⟨bytes, rest, hbytes, hr⟩
  · obtain ⟨d', hd', hmoved⟩ := (shifts_bytes size.toNat).error hr
    exact ⟨d', hrest (bind_eq_error.2 (.inl hd')), hmoved⟩
  cases htext : String.fromUTF8? bytes.toByteArray with
  | some s =>
    rw [htext] at hr
    cases hr
  | none =>
    rw [htext] at hr
    cases hr
    refine ⟨.invalidUtf8 (mid.position + n) bytes, hrest ?_, rfl⟩
    refine bind_eq_error.2 (.inr ⟨bytes, _, (shifts_bytes _).ok hbytes, ?_⟩)
    rw [htext]
    rfl

theorem shifts_valType : Shifts n (Defect.MovedBy n) valType valType := by
  apply shifts_position_byte
  intro position tag
  split
  · exact shifts_pure _
  · exact shifts_fail rfl

theorem shifts_funcType : Shifts n (Defect.MovedBy n) funcType funcType := by
  apply shifts_position_byte
  intro position tag
  split
  · apply (shifts_vector shifts_valType).bind
    intro params
    exact (shifts_vector shifts_valType).bind fun results => shifts_pure _
  · exact shifts_fail rfl

theorem shifts_localEntry : Shifts n (Defect.MovedBy n) localEntry localEntry :=
  shifts_u32.bind fun _ => shifts_valType.bind fun _ => shifts_pure _

theorem shifts_exportEntry : Shifts n (Defect.MovedBy n) exportEntry exportEntry :=
  shifts_name.bind fun _ => shifts_byte.bind fun _ => shifts_u32.bind fun _ => shifts_pure _

theorem shifts_blockType : Shifts n (Defect.MovedBy n) blockType blockType := by
  apply reads_blockType.shifts reads_blockType
  intro c d hr
  unfold blockType at hr
  split at hr
  · next hb =>
    cases hr
    obtain ⟨d', hd', hmoved⟩ := shifts_byte.error hb
    exact ⟨d', by rw [blockType, hd'], hmoved⟩
  · next lead rest hb =>
    have hb' := (shifts_byte (n := n)).ok hb
    split at hr
    · cases hr
    · next hempty =>
      split at hr
      · cases hr
      · next hvalue =>
        split at hr
        · next hi =>
          cases hr
          obtain ⟨d', hd', hmoved⟩ := shifts_s32.error hi
          exact ⟨d', by simp [blockType, hb', hempty, hvalue, hd'], hmoved⟩
        · next hi =>
          split at hr
          · next hneg =>
            cases hr
            refine ⟨.invalidValType (c.shift n).position lead, ?_, rfl⟩
            simp [blockType, hb', hempty, hvalue, shifts_s32.ok hi, hneg]
          · cases hr

end Reader

namespace Decode

variable {n : Nat}

theorem shifts_immediates (nesting : Nesting) (p : Pending) (position : Nat) (code : UInt8) :
    Reader.Shifts n (Defect.MovedBy n) (immediates nesting p position code)
      (immediates nesting p (position + n) code) := by
  unfold immediates
  cases form code with
  | simple i => exact Reader.shifts_pure _
  | indexed make => exact Reader.shifts_u32.bind fun _ => Reader.shifts_pure _
  | constant make => exact Reader.shifts_s32.bind fun _ => Reader.shifts_pure _
  | opening frame =>
    dsimp only
    split
    · exact Reader.shifts_fail rfl
    · exact Reader.shifts_blockType.bind fun _ => Reader.shifts_pure _
  | otherwise =>
    dsimp only
    split
    · exact Reader.shifts_pure _
    · exact Reader.shifts_fail rfl
  | close => exact Reader.shifts_pure _
  | undefined => exact Reader.shifts_fail rfl

theorem shifts_step (nesting : Nesting) (p : Pending) :
    Reader.Shifts n (Defect.MovedBy n) (step nesting p) (step nesting p) :=
  Reader.shifts_position_byte fun position code => shifts_immediates nesting p position code

theorem resume_shift {nesting : Nesting} {p : Pending} {c : Cursor} {d : Defect}
    (h : resume nesting p c = .error d) (n : Nat) :
    ∃ d', resume nesting p (c.shift n) = .error d' ∧ d.MovedBy n d' := by
  fun_induction resume nesting p c with
  | case1 p c d' hstep =>
    cases h
    obtain ⟨d', hd', hmoved⟩ := (shifts_step nesting p).error hstep
    exact ⟨d', resume_error hd', hmoved⟩
  | case2 p c e rest hstep => cases h
  | case3 p c p' rest hstep _ ih =>
    obtain ⟨bs, hm, hs⟩ := (reads_step nesting p c _ _).1 hstep
    rw [resume_more hm (hs.shift n)]
    exact ih h

end Decode

namespace Reader

variable {n : Nat}

theorem shifts_expr (nesting : Decode.Nesting) :
    Shifts n (Defect.MovedBy n) (expr nesting) (expr nesting) :=
  (reads_expr nesting).shifts (reads_expr nesting) fun h => Decode.resume_shift h n

theorem shifts_closedExpr (nesting : Decode.Nesting) :
    Shifts n (Defect.MovedBy n) (closedExpr nesting) (closedExpr nesting) := by
  apply (reads_closedExpr nesting).shifts (reads_closedExpr nesting)
  intro c d hr
  rcases bind_eq_error.1 hr with hr | ⟨e, mid, he, hr⟩
  · obtain ⟨d', hd', hmoved⟩ := (shifts_expr nesting).error hr
    exact ⟨d', bind_eq_error.2 (.inl hd'), hmoved⟩
  rcases bind_eq_error.1 hr with hr | ⟨position, _, hposition, hr⟩
  · cases hr
  cases hposition
  split at hr
  · next hterm =>
    cases hr
    -- at least the byte that closes the expression has been read, so there is one to go back by
    have hpos : 1 ≤ mid.position := by
      obtain ⟨bs, hw, hs⟩ := (reads_expr nesting _ _ _).1 he
      have hlength : 0 < bs.length := hw.elim Expr.Written.length_pos Expr.Written.length_pos
      have hmid := hs.position
      omega
    refine ⟨.unexpectedElse (mid.position + n - 1), ?_, ?_⟩
    · refine bind_eq_error.2 (.inr ⟨e, mid.shift n, (shifts_expr nesting).ok he, ?_⟩)
      refine bind_eq_error.2 (.inr ⟨mid.position + n, mid.shift n, rfl, ?_⟩)
      rw [if_pos hterm]
      rfl
    · rw [Nat.sub_add_comm hpos]
      rfl
  · cases hr

end Reader

namespace Decode

variable {options : DecodeOptions} {n : Nat}

theorem bodyContent_shift {size : UInt32} {c : Cursor} {d : Defect}
    (h : bodyContent options size c = .error d) (n : Nat) :
    ∃ d', bodyContent options size (c.shift n) = .error d' ∧ d.MovedBy n d' := by
  have hlocals : Reader.Shifts n (Defect.MovedBy n) (Reader.vector Reader.localEntry)
      (Reader.vector Reader.localEntry) := Reader.shifts_vector Reader.shifts_localEntry
  have hcode := Reader.shifts_closedExpr (n := n) { limit := options.maxNesting }
  rcases Reader.bind_eq_error.1 h with h | ⟨locals, c₁, h₁, h⟩
  · obtain ⟨d', hd', hmoved⟩ := hlocals.error h
    exact ⟨d', Reader.bind_eq_error.2 (.inl hd'), hmoved⟩
  have hrest {d' : Defect} (hd' : _ = Except.error d') :
      bodyContent options size (c.shift n) = .error d' :=
    Reader.bind_eq_error.2 (.inr ⟨locals, c₁.shift n, hlocals.ok h₁, hd'⟩)
  rcases Reader.bind_eq_error.1 h with h | ⟨e, c₂, h₂, h⟩
  · obtain ⟨d', hd', hmoved⟩ := hcode.error h
    exact ⟨d', hrest (Reader.bind_eq_error.2 (.inl hd')), hmoved⟩
  split at h
  · cases h
  · next hempty =>
    split at h
    · next hstrict =>
      cases h
      refine ⟨.trailingBytes (c₂.position + n) c₂.unread.length, hrest ?_, rfl⟩
      refine Reader.bind_eq_error.2 (.inr ⟨e, c₂.shift n, hcode.ok h₂, ?_⟩)
      exact (if_neg hempty).trans (if_pos hstrict)
    · cases h

theorem region_shift {k : Nat} {c : Cursor} {d : Defect} (h : Reader.region k c = .error d)
    (n : Nat) : ∃ d', Reader.region k (c.shift n) = .error d' ∧ d.MovedBy n d' := by
  unfold Reader.region at h
  split at h
  · next hb =>
    cases h
    obtain ⟨d', hd', hmoved⟩ := (Reader.shifts_bytes k).error hb
    exact ⟨d', by rw [Reader.region, hd'], hmoved⟩
  · cases h

theorem region_shift_ok {k : Nat} {c region rest : Cursor}
    (h : Reader.region k c = .ok (region, rest)) (n : Nat) :
    Reader.region k (c.shift n) = .ok (region.shift n, rest.shift n) := by
  obtain ⟨bs, hlength, rfl, hs⟩ := Reader.region_natCast_eq_ok_iff.1 h
  exact Reader.region_natCast_eq_ok_iff.2 ⟨bs, hlength, rfl, hs.shift n⟩

theorem body_shift {c : Cursor} {d : Defect} (h : body options c = .error d) (n : Nat) :
    ∃ d', body options (c.shift n) = .error d' ∧ d.MovedBy n d' := by
  rcases Reader.bind_eq_error.1 h with h | ⟨size, mid, hsize, h⟩
  · obtain ⟨d', hd', hmoved⟩ := Reader.shifts_u32.error h
    exact ⟨d', Reader.bind_eq_error.2 (.inl hd'), hmoved⟩
  have hrest {d' : Defect} (hd' : _ = Except.error d') : body options (c.shift n) = .error d' :=
    Reader.bind_eq_error.2 (.inr ⟨size, mid.shift n, Reader.shifts_u32.ok hsize, hd'⟩)
  rcases Reader.bind_eq_error.1 h with h | ⟨region, rest, hregion, h⟩
  · obtain ⟨d', hd', hmoved⟩ := region_shift h n
    exact ⟨d', hrest (Reader.bind_eq_error.2 (.inl hd')), hmoved⟩
  cases hread : bodyContent options size region with
  | ok p =>
    rw [hread] at h
    cases h
  | error d₀ =>
    rw [hread] at h
    cases h
    obtain ⟨d', hd', hmoved⟩ := bodyContent_shift hread n
    refine ⟨d', hrest (Reader.bind_eq_error.2 (.inr ⟨_, _, region_shift_ok hregion n, ?_⟩)), hmoved⟩
    rw [hd']
    rfl

theorem placed_shift {α : Type} {places : List Place} {r : Reader α} {c : Cursor}
    {f : DecodeFailure} (h : placed places r c = .error f)
    (hr : ∀ {d}, r c = .error d → ∃ d', r (c.shift n) = .error d' ∧ d.MovedBy n d') :
    ∃ f', placed places r (c.shift n) = .error f' ∧ f.MovedBy n f' := by
  obtain ⟨d, hd, rfl⟩ := except_mapError_eq_error.1 h
  obtain ⟨d', hd', hmoved⟩ := hr hd
  exact ⟨⟨places, d'⟩, except_mapError_eq_error.2 ⟨d', hd', rfl⟩, rfl, hmoved⟩

theorem shifts_placed {α : Type} {r : Reader α} (h : Reader.Shifts n (Defect.MovedBy n) r r)
    (places : List Place) :
    Reader.Shifts n (DecodeFailure.MovedBy n) (placed places r) (placed places r) := by
  constructor
  · intro c x rest hr
    exact placed_eq_ok_iff.2 (h.ok (placed_eq_ok_iff.1 hr))
  · intro c f hr
    exact placed_shift hr h.error

theorem shifts_placedBody (options : DecodeOptions) (index : Nat) :
    Reader.Shifts n (DecodeFailure.MovedBy n) (placedBody options index)
      (placedBody options index) := by
  apply (reads_placedBody options index).shifts (reads_placedBody options index)
  intro c f hr
  rcases Reader.bind_eq_error.1 hr with hr | ⟨read, mid, -, hr⟩
  · obtain ⟨f', hf', hmoved⟩ := placed_shift hr fun hd => body_shift hd n
    exact ⟨f', Reader.bind_eq_error.2 (.inl hf'), hmoved⟩
  · cases hr

theorem shifts_placedContent {id : SectionId} {r : PlacedReader Section}
    (h : placedContent options id = some r) : Reader.Shifts n (DecodeFailure.MovedBy n) r r := by
  unfold placedContent at h
  split at h
  · cases h
    exact (shifts_placed (Reader.shifts_vector Reader.shifts_funcType) []).map _
  · cases h
    exact (shifts_placed (Reader.shifts_vector Reader.shifts_u32) []).map _
  · cases h
    exact (shifts_placed (Reader.shifts_vector Reader.shifts_exportEntry) []).map _
  · cases h
    apply (shifts_placed Reader.shifts_u32 []).bind
    intro count
    apply (Reader.shifts_repeated (shifts_placedBody options) count.toNat 0 []).bind
    exact fun _ => Reader.shifts_pure _
  · cases h

def SectionFrame.shift (frame : SectionFrame) (n : Nat) : SectionFrame :=
  { frame with offset := frame.offset + n, content := frame.content.shift n }

theorem answer_shift {frame : SectionFrame} {f : DecodeFailure}
    (h : frame.answer options = .error f) (n : Nat) :
    ∃ f', (frame.shift n).answer options = .error f' ∧ f.MovedBy n f' := by
  have hid : (frame.shift n).id = frame.id := rfl
  unfold SectionFrame.answer at h
  split at h
  · next hr =>
    cases h
    refine ⟨⟨[], .unknownSection (frame.offset + n) frame.id.byte⟩, ?_, rfl, rfl⟩
    rw [SectionFrame.answer, hid, hr]
    rfl
  · next r hr =>
    obtain ⟨f₀, hf₀, rfl⟩ := except_mapError_eq_error.1 h
    obtain ⟨f', hf', hmoved⟩ := (shifts_placedContent hr).error (except_map_eq_error.1 hf₀)
    refine ⟨f'.within (.content frame.id), ?_, hmoved.within _⟩
    rw [SectionFrame.answer, hid, hr]
    exact except_mapError_eq_error.2 ⟨f', except_map_eq_error.2 hf', rfl⟩

theorem sectionFrame_shift {id : SectionId} {offset : Nat} {c : Cursor} {f : DecodeFailure}
    (h : sectionFrame id offset c = .error f) (n : Nat) :
    ∃ f', sectionFrame id (offset + n) (c.shift n) = .error f' ∧ f.MovedBy n f' := by
  unfold sectionFrame at h
  split at h
  · next hd =>
    cases h
    obtain ⟨d', hd', hmoved⟩ := Reader.shifts_u32.error hd
    exact ⟨⟨[.sectionSize], d'⟩, by rw [sectionFrame, hd'], rfl, hmoved⟩
  · next size mid hsize =>
    split at h
    · next hd =>
      cases h
      obtain ⟨d', hd', hmoved⟩ := region_shift hd n
      refine ⟨⟨[.sectionData id], d'⟩, ?_, rfl, hmoved⟩
      rw [sectionFrame, Reader.shifts_u32.ok hsize]
      dsimp only
      rw [hd']
    · cases h

theorem sectionFrame_shift_ok {id : SectionId} {offset : Nat} {c rest : Cursor}
    {frame : SectionFrame} (h : sectionFrame id offset c = .ok (frame, rest)) (n : Nat) :
    sectionFrame id (offset + n) (c.shift n) = .ok (frame.shift n, rest.shift n) := by
  obtain ⟨hid, rfl, front, bs, hfront, hlength, hcontent, hs⟩ := sectionFrame_eq_ok_iff.1 h
  refine sectionFrame_eq_ok_iff.2 ⟨hid, rfl, front, bs, hfront, hlength, ?_, hs.shift n⟩
  rw [SectionFrame.shift, hcontent, Cursor.shift, Cursor.shift, Nat.add_right_comm]

theorem sectionList_shift {c : Cursor} {f : DecodeFailure}
    (h : sectionList options c = .error f) (n : Nat) :
    ∃ f', sectionList options (c.shift n) = .error f' ∧ f.MovedBy n f' := by
  fun_induction sectionList options c generalizing f with
  | case1 => cases h
  | case2 c id after hunread f₀ hframe =>
    cases h
    obtain ⟨f', hf', hmoved⟩ := sectionFrame_shift hframe n
    refine ⟨f', sectionList_error hunread ?_, hmoved⟩
    rw [← hf', Cursor.shift, Cursor.shift, Nat.add_right_comm]
  | case3 c id after hunread frame rest hframe _ ih =>
    have hframe' := sectionFrame_shift_ok hframe n
    rw [Cursor.shift, Nat.add_right_comm] at hframe'
    rw [sectionList_cons (c := c.shift n) hunread hframe']
    rcases except_bind_eq_error.1 h with h | ⟨s, hs, h⟩
    · obtain ⟨f', hf', hmoved⟩ := answer_shift h n
      exact ⟨f', except_bind_eq_error.2 (.inl hf'), hmoved⟩
    · obtain ⟨f', hf', hmoved⟩ := ih (except_map_eq_error.1 h)
      obtain ⟨hid, hcontent⟩ := answer_eq_ok_iff.1 hs
      have hs' : (frame.shift n).answer options = .ok s := answer_eq_ok_iff.2 ⟨hid, hcontent⟩
      exact ⟨f', except_bind_eq_error.2 (.inr ⟨s, hs', except_map_eq_error.2 hf'⟩), hmoved⟩

theorem sectionList_append {bs : List UInt8} {ss : List Section}
    (h : Format.Many (Section.Written options) bs ss) (position : Nat) (more : List UInt8) :
    sectionList options ⟨position, bs ++ more⟩ =
      (sectionList options ⟨position + bs.length, more⟩).map (ss ++ ·) := by
  induction h generalizing position with
  | nil =>
    cases hmore : sectionList options ⟨position, more⟩ with
    | error f => simp [Except.map, hmore]
    | ok ss => simp [Except.map, hmore]
  | @cons front back s ss head tail ih =>
    have hc : (Cursor.mk position (front ++ back ++ more)).unread = front ++ (back ++ more) :=
      List.append_assoc ..
    rw [sectionList_written head hc, ih, List.length_append, ← Nat.add_assoc]
    cases sectionList options ⟨position + front.length + back.length, more⟩ with
    | error f => rfl
    | ok ss' => rfl

end Decode

namespace Module

variable {options : DecodeOptions} {header s₁ : List UInt8} {m₁ : Module}

theorem decode_header (options : DecodeOptions) (version : FourBytes) (bs : List UInt8) :
    decode options (FourBytes.magic.toList ++ version.toList ++ bs) =
      (Decode.sectionList options ⟨8, bs⟩).map (⟨.magic, version, ·⟩) := by
  rw [decode_eq_answer]
  rfl

theorem header_eq (hlength : header.length = 8) (hmagic : FourBytes.magic.toList <+: header) :
    ∃ version : FourBytes, header = FourBytes.magic.toList ++ version.toList := by
  obtain ⟨rest, rfl⟩ := hmagic
  rcases rest with _ | ⟨b0, _ | ⟨b1, _ | ⟨b2, _ | ⟨b3, _ | ⟨b4, rest⟩⟩⟩⟩⟩
  all_goals simp [FourBytes.toList] at hlength
  exact ⟨⟨b0, b1, b2, b3⟩, rfl⟩

theorem decode_append_cases {version : FourBytes}
    (h : decode options (FourBytes.magic.toList ++ version.toList ++ s₁) = .ok m₁)
    (s₂ : List UInt8) :
    let header := FourBytes.magic.toList ++ version.toList
    (∃ ss, decode options (header ++ s₁ ++ s₂) = .ok ⟨.magic, version, m₁.sections ++ ss⟩ ∧
        decode options (header ++ s₂) = .ok ⟨.magic, version, ss⟩) ∨
      ∃ f f₂, decode options (header ++ s₁ ++ s₂) = .error f ∧
        decode options (header ++ s₂) = .error f₂ ∧ f₂.MovedBy s₁.length f := by
  intro header
  rw [decode_header] at h
  obtain ⟨ss₁, hss₁, rfl⟩ := except_map_eq_ok.1 h
  have hboth := Decode.sectionList_append (Decode.sectionList_eq_ok_iff.1 hss₁) 8 s₂
  rw [List.append_assoc, decode_header, decode_header, hboth]
  cases hss : Decode.sectionList options ⟨8, s₂⟩ with
  | ok ss =>
    have hsections := Decode.sectionList_eq_ok_iff.1 hss
    have hss' : Decode.sectionList options ⟨8 + s₁.length, s₂⟩ = .ok ss :=
      Decode.sectionList_eq_ok_iff.2 hsections
    rw [hss']
    exact .inl ⟨ss, rfl, rfl⟩
  | error f₂ =>
    obtain ⟨f, hf, hmoved⟩ := Decode.sectionList_shift hss s₁.length
    refine .inr ⟨f, f₂, ?_, rfl, hmoved⟩
    change Except.map _ (Except.map _ (Decode.sectionList options (Cursor.shift ⟨8, s₂⟩ _))) = _
    rw [hf]
    rfl

/-- Where a module is followed by more bytes, these are decoded as they are behind the header of the
module alone: the sections that they hold follow those of the module, and a failure among them has
the same contexts and the same report, as many bytes further on as there are before them. -/
theorem decode_append (hlength : header.length = 8) (hmagic : FourBytes.magic.toList <+: header)
    (h : decode options (header ++ s₁) = .ok m₁) (s₂ : List UInt8) :
    ((∃ m, decode options (header ++ s₁ ++ s₂) = .ok m) ↔
        ∃ m, decode options (header ++ s₂) = .ok m) ∧
      (∀ m m₂, decode options (header ++ s₁ ++ s₂) = .ok m →
        decode options (header ++ s₂) = .ok m₂ →
          m.magic = m₂.magic ∧ m.version = m₂.version ∧ m.sections = m₁.sections ++ m₂.sections) ∧
      ∀ f f₂, decode options (header ++ s₁ ++ s₂) = .error f →
        decode options (header ++ s₂) = .error f₂ → f₂.MovedBy s₁.length f := by
  obtain ⟨version, rfl⟩ := header_eq hlength hmagic
  rcases decode_append_cases h s₂ with ⟨ss, hboth, hsecond⟩ | ⟨f, f₂, hboth, hsecond, hmoved⟩
  · rw [hboth, hsecond]
    refine ⟨iff_of_true ⟨_, rfl⟩ ⟨_, rfl⟩, ?_, nofun⟩
    intro m m₂ hm hm₂
    cases hm
    cases hm₂
    exact ⟨rfl, rfl, rfl⟩
  · rw [hboth, hsecond]
    refine ⟨iff_of_false nofun nofun, nofun, ?_⟩
    intro g g₂ hg hg₂
    cases hg
    cases hg₂
    exact hmoved

/-- A second code section whose body is closed by nothing. -/
theorem decode_append_open_body :
    let header : List UInt8 := [0x00, 0x61, 0x73, 0x6D, 1, 0, 0, 0]
    let s₁ : List UInt8 := [0x0A, 0x04, 0x01, 0x02, 0x00, 0x0B]
    let s₂ : List UInt8 := [0x0A, 0x05, 0x01, 0x03, 0x00, 0x02, 0x40]
    let m₁ : Module := ⟨.magic, .version1, [.code [⟨2, [], .close .close⟩]]⟩
    decode ⟨true, 1⟩ (header ++ s₁) = .ok m₁ ∧
      decode ⟨true, 1⟩ (header ++ s₁ ++ s₂) =
        .error ⟨[.content .code, .body 0], .underrun 21 1 0⟩ ∧
      decode ⟨true, 1⟩ (header ++ s₂) = .error ⟨[.content .code, .body 0], .underrun 15 1 0⟩ ∧
      DecodeFailure.MovedBy 6 ⟨[.content .code, .body 0], .underrun 15 1 0⟩
        ⟨[.content .code, .body 0], .underrun 21 1 0⟩ := by
  intro header s₁ s₂ m₁
  have h : decode ⟨true, 1⟩ (header ++ s₁) = .ok m₁ := by decide +kernel
  have hboth : decode ⟨true, 1⟩ (header ++ s₁ ++ s₂) =
      .error ⟨[.content .code, .body 0], .underrun 21 1 0⟩ := by decide +kernel
  have hsecond : decode ⟨true, 1⟩ (header ++ s₂) =
      .error ⟨[.content .code, .body 0], .underrun 15 1 0⟩ := by decide +kernel
  have happend := decode_append (by decide) (by decide) h s₂
  exact ⟨h, hboth, hsecond, happend.2.2 _ _ hboth hsecond⟩

end Module

end WasmScope

import WasmScope.Proofs.Binary.Locate
import WasmScope.Proofs.Grammar.Module

namespace WasmScope

namespace Reader

variable {limit : Nat} {data : List UInt8}

theorem locates_name : Locates data (Defect.HoldsIn limit data) name := by
  apply reads_name.locates
  intro c d hc hr
  rcases bind_eq_error.1 hr with hr | ⟨n, mid, hn, hr⟩
  · exact locates_u32.error hc hr
  obtain ⟨front, hfront, hs⟩ := (reads_u32 _ _ _).1 hn
  have hmid := hc.spans hs
  rcases bind_eq_error.1 hr with hr | ⟨position, _, hposition, hr⟩
  · cases hr
  cases hposition
  rcases bind_eq_error.1 hr with hr | ⟨bytes, rest, hbytes, hr⟩
  · exact (locates_bytes n.toNat).error hmid hr
  obtain ⟨_, ⟨rfl, hlength⟩, hs'⟩ := (reads_bytes _ _ _ _).1 hbytes
  cases htext : String.fromUTF8? bytes.toByteArray with
  | some s =>
    rw [htext] at hr
    cases hr
  | none =>
    rw [htext] at hr
    cases hr
    have hroom := (hmid.region hs').room
    exact ⟨fromUTF8_eq_none_iff.1 htext, hroom, hmid.slice hs',
      front, n, hc.suffix hs, hfront, hlength.symm⟩

theorem locates_valType : Locates data (Defect.HoldsIn limit data) valType := by
  apply locates_position_byte
  intro position tag htag
  split
  · exact locates_pure _
  · exact locates_fail htag

theorem locates_funcType : Locates data (Defect.HoldsIn limit data) funcType := by
  apply locates_position_byte
  intro position tag htag
  split
  · apply (locates_vector locates_valType).bind
    intro params
    exact (locates_vector locates_valType).bind fun results => locates_pure _
  · exact locates_fail htag

theorem locates_localEntry : Locates data (Defect.HoldsIn limit data) localEntry :=
  locates_u32.bind fun _ => locates_valType.bind fun _ => locates_pure _

theorem locates_exportEntry : Locates data (Defect.HoldsIn limit data) exportEntry :=
  locates_name.bind fun _ => locates_byte.bind fun _ => locates_u32.bind fun _ => locates_pure _

theorem locates_blockType : Locates data (Defect.HoldsIn limit data) blockType := by
  apply reads_blockType.locates
  intro c d hc hr
  unfold blockType at hr
  split at hr
  · next hb =>
    cases hr
    exact locates_byte.error hc hb
  · next lead rest hb =>
    obtain ⟨_, rfl, hs⟩ := (reads_byte _ _ _).1 hb
    split at hr
    · cases hr
    · split at hr
      · cases hr
      · split at hr
        · next hi =>
          cases hr
          exact locates_s32.error hc hi
        · split at hr
          · cases hr
            exact hc.next hs.unread
          · cases hr

end Reader

namespace Decode

variable {data : List UInt8}

theorem form_eq_opening {code : UInt8} {frame : BlockType → List Instr → Frame}
    (h : form code = .opening frame) : code = 0x02 ∨ code = 0x03 ∨ code = 0x04 := by
  unfold form at h
  split at h
  · exact .inl rfl
  · exact .inr (.inl rfl)
  · exact .inr (.inr rfl)
  all_goals cases h

theorem form_eq_otherwise {code : UInt8} (h : form code = .otherwise) : code = 0x05 := by
  unfold form at h
  split at h
  all_goals first | rfl | cases h

theorem locates_immediates (nesting : Nesting) (p : Pending) {position : Nat} {code : UInt8}
    (hcode : data[position]? = some code) :
    Reader.Locates data (Defect.HoldsIn nesting.limit data)
      (immediates nesting p position code) := by
  unfold immediates
  cases hform : form code with
  | simple i => exact Reader.locates_pure _
  | indexed make => exact Reader.locates_u32.bind fun _ => Reader.locates_pure _
  | constant make => exact Reader.locates_s32.bind fun _ => Reader.locates_pure _
  | opening frame =>
    dsimp only
    split
    · exact Reader.locates_fail ⟨rfl, code, hcode, form_eq_opening hform⟩
    · exact Reader.locates_blockType.bind fun _ => Reader.locates_pure _
  | otherwise =>
    dsimp only
    split
    · exact Reader.locates_pure _
    · rw [form_eq_otherwise hform] at hcode
      exact Reader.locates_fail hcode
  | close => exact Reader.locates_pure _
  | undefined => exact Reader.locates_fail hcode

theorem locates_step (nesting : Nesting) (p : Pending) :
    Reader.Locates data (Defect.HoldsIn nesting.limit data) (step nesting p) :=
  Reader.locates_position_byte fun _ _ hcode => locates_immediates nesting p hcode

theorem resume_holdsIn {nesting : Nesting} {p : Pending} {c : Cursor} {d : Defect}
    (hc : c.Within data) (h : resume nesting p c = .error d) :
    d.HoldsIn nesting.limit data := by
  fun_induction resume nesting p c with
  | case1 p c d' hstep =>
    cases h
    exact (locates_step nesting p).error hc hstep
  | case2 p c e rest hstep => cases h
  | case3 p c p' rest hstep _ ih =>
    exact ih ((locates_step nesting p).within hc hstep) h

end Decode

namespace Reader

variable {data : List UInt8}

theorem locates_expr (nesting : Decode.Nesting) :
    Locates data (Defect.HoldsIn nesting.limit data) (expr nesting) :=
  (reads_expr nesting).locates Decode.resume_holdsIn

theorem locates_closedExpr (nesting : Decode.Nesting) :
    Locates data (Defect.HoldsIn nesting.limit data) (closedExpr nesting) := by
  apply (reads_closedExpr nesting).locates
  intro c d hc hr
  rcases bind_eq_error.1 hr with hr | ⟨e, mid, he, hr⟩
  · exact (locates_expr nesting).error hc hr
  rcases bind_eq_error.1 hr with hr | ⟨position, _, hposition, hr⟩
  · cases hr
  cases hposition
  split at hr
  · next hterm =>
    cases hr
    obtain ⟨bs, hw, hs⟩ := (reads_expr nesting _ _ _).1 he
    rcases hw with hw | hw
    · rw [hw.terminator_eq] at hterm
      exact absurd hterm (by decide)
    · obtain ⟨_⟩ := hw
      -- the else that closes the expression is the byte just read
      exact (hc.last hs).2
  · cases hr

end Reader

def DecodeFailure.HoldsIn (limit : Nat) (data : List UInt8) (f : DecodeFailure) : Prop :=
  f.defect.HoldsIn limit data

theorem DecodeFailure.HoldsIn.within {limit : Nat} {data : List UInt8} {f : DecodeFailure}
    (h : f.HoldsIn limit data) (place : Decode.Place) : (f.within place).HoldsIn limit data := h

namespace Decode

variable {options : DecodeOptions} {limit : Nat} {data : List UInt8}

theorem bodyContent_holdsIn {size : UInt32} {c : Cursor} {d : Defect} (hc : c.Within data)
    (h : bodyContent options size c = .error d) : d.HoldsIn options.maxNesting data := by
  have hlocals : Reader.Locates data (Defect.HoldsIn options.maxNesting data)
      (Reader.vector Reader.localEntry) := Reader.locates_vector Reader.locates_localEntry
  rcases Reader.bind_eq_error.1 h with h | ⟨locals, c₁, h₁, h⟩
  · exact hlocals.error hc h
  have hc₁ := hlocals.within hc h₁
  rcases Reader.bind_eq_error.1 h with h | ⟨e, c₂, h₂, h⟩
  · exact (Reader.locates_closedExpr _).error hc₁ h
  obtain ⟨es, hes, hs⟩ := (Reader.reads_closedExpr _ _ _ _).1 h₂
  have hc₂ := hc₁.spans hs
  split at h
  · cases h
  · next hempty =>
    split at h
    · cases h
      obtain ⟨_⟩ := hes
      have hcount : 1 ≤ c₂.unread.length := List.length_pos_iff.2 (mt List.isEmpty_iff.2 hempty)
      exact ⟨hcount, hc₂.room, hc₁.last hs⟩
    · cases h

theorem region_holdsIn {n : Nat} {c : Cursor} {d : Defect} (hc : c.Within data)
    (h : Reader.region n c = .error d) : d.HoldsIn limit data := by
  unfold Reader.region at h
  split at h
  · next hb =>
    cases h
    exact (Reader.locates_bytes n).error hc hb
  · cases h

theorem locates_body :
    Reader.Locates data (Defect.HoldsIn options.maxNesting data) (body options) := by
  have hu32 : Reader.Locates data (Defect.HoldsIn options.maxNesting data) Reader.u32 :=
    Reader.locates_u32
  constructor
  · intro c read rest hc h
    obtain ⟨size, mid, region, rest', hsize, hregion, -⟩ := body_eq_ok_iff.1 h
    obtain ⟨bs, -, -, hs⟩ := Reader.region_natCast_eq_ok_iff.1 hregion
    exact (hu32.within hc hsize).spans hs
  · intro c d hc h
    rcases Reader.bind_eq_error.1 h with h | ⟨size, mid, hsize, h⟩
    · exact hu32.error hc h
    have hmid := hu32.within hc hsize
    rcases Reader.bind_eq_error.1 h with h | ⟨region, rest, hregion, h⟩
    · exact region_holdsIn hmid h
    obtain ⟨bs, -, rfl, hs⟩ := Reader.region_natCast_eq_ok_iff.1 hregion
    cases hread : bodyContent options size ⟨mid.position, bs⟩ with
    | error d' =>
      rw [hread] at h
      cases h
      exact bodyContent_holdsIn (hmid.region hs) hread
    | ok p =>
      rw [hread] at h
      cases h

theorem locates_placed {α : Type} {r : Reader α}
    (h : Reader.Locates data (Defect.HoldsIn limit data) r) (places : List Place) :
    Reader.Locates data (DecodeFailure.HoldsIn limit data) (placed places r) := by
  constructor
  · intro c x rest hc hr
    exact h.within hc (placed_eq_ok_iff.1 hr)
  · intro c f hc hr
    obtain ⟨d, hd, rfl⟩ := except_mapError_eq_error.1 hr
    exact h.error hc hd

theorem locates_placedContent {id : SectionId} {r : PlacedReader Section}
    (h : placedContent options id = some r) :
    Reader.Locates data (DecodeFailure.HoldsIn options.maxNesting data) r := by
  unfold placedContent at h
  split at h
  · cases h
    exact (locates_placed (Reader.locates_vector Reader.locates_funcType) []).map _
  · cases h
    exact (locates_placed (Reader.locates_vector Reader.locates_u32) []).map _
  · cases h
    exact (locates_placed (Reader.locates_vector Reader.locates_exportEntry) []).map _
  · cases h
    have hbody (i : Nat) : Reader.Locates data (DecodeFailure.HoldsIn options.maxNesting data)
        (placedBody options i) :=
      (locates_placed locates_body [.body i]).bind fun read => Reader.locates_pure _
    apply (locates_placed Reader.locates_u32 []).bind
    intro count
    exact (Reader.locates_repeated hbody count.toNat 0 []).bind fun _ => Reader.locates_pure _
  · cases h

theorem answer_holdsIn {frame : SectionFrame} {f : DecodeFailure}
    (hid : data[frame.offset]? = some frame.id.byte) (hc : frame.content.Within data)
    (h : frame.answer options = .error f) : f.HoldsIn options.maxNesting data := by
  unfold SectionFrame.answer at h
  split at h
  · cases h
    exact hid
  · next r hr =>
    obtain ⟨f', hf', rfl⟩ := except_mapError_eq_error.1 h
    have hinner := (locates_placedContent hr).error hc (except_map_eq_error.1 hf')
    exact hinner.within _

theorem sectionFrame_holdsIn {id : SectionId} {offset : Nat} {c : Cursor} {f : DecodeFailure}
    (hc : c.Within data) (h : sectionFrame id offset c = .error f) : f.HoldsIn limit data := by
  have hu32 : Reader.Locates data (Defect.HoldsIn limit data) Reader.u32 := Reader.locates_u32
  unfold sectionFrame at h
  split at h
  · next d hd =>
    cases h
    exact hu32.error hc hd
  · next size mid hsize =>
    split at h
    · next d hd =>
      cases h
      exact region_holdsIn (hu32.within hc hsize) hd
    · cases h

theorem sectionList_holdsIn {c : Cursor} {f : DecodeFailure} (hc : c.Within data)
    (h : sectionList options c = .error f) : f.HoldsIn options.maxNesting data := by
  fun_induction sectionList options c with
  | case1 => cases h
  | case2 c id after hid f' hframe =>
    cases h
    have hs : c.Spans [id] ⟨c.position + 1, after⟩ := ⟨hid, rfl⟩
    exact sectionFrame_holdsIn (hc.spans hs) hframe
  | case3 c id after hunread frame rest hframe _ ih =>
    have hs : c.Spans [id] ⟨c.position + 1, after⟩ := ⟨hunread, rfl⟩
    obtain ⟨hid, hoffset, front, bs, -, -, hcontent, hspan⟩ := sectionFrame_eq_ok_iff.1 hframe
    obtain ⟨mid, hfront, hbs⟩ := hspan.split
    have hmid := (hc.spans hs).spans hfront
    rcases except_bind_eq_error.1 h with h | ⟨s, -, h⟩
    · refine answer_holdsIn ?_ ?_ h
      · rw [hoffset, hid]
        exact hc.next hunread
      · rw [hcontent, ← hfront.position]
        exact hmid.region hbs
    · exact ih (hmid.spans hbs) (except_map_eq_error.1 h)

theorem locates_fourBytes : Reader.Locates data (Defect.HoldsIn limit data) fourBytes := by
  apply reads_fourBytes.locates
  intro c d hc hr
  obtain ⟨position, unread⟩ := c
  rcases unread with _ | ⟨b0, _ | ⟨b1, _ | ⟨b2, _ | ⟨b3, rest⟩⟩⟩⟩
  all_goals cases hr
  all_goals exact hc.underrun (by simp) limit

end Decode

namespace Module

variable {options : DecodeOptions} {data : List UInt8} {f : DecodeFailure}

theorem answer_holdsIn (h : answer options data = .error f) :
    f.HoldsIn options.maxNesting data := by
  have hfour : Reader.Locates data (DecodeFailure.HoldsIn options.maxNesting data)
      (Decode.placed [.header] Decode.fourBytes) :=
    Decode.locates_placed Decode.locates_fourBytes [.header]
  have hstart := Cursor.within_ofBytes data
  unfold answer at h
  rcases except_bind_eq_error.1 h with h | ⟨⟨magic, c₁⟩, h₁, h⟩
  · exact hfour.error hstart h
  have hc₁ := hfour.within hstart h₁
  dsimp only at h
  split at h
  · rcases except_bind_eq_error.1 h with h | ⟨⟨version, c₂⟩, h₂, h⟩
    · exact hfour.error hc₁ h
    · exact Decode.sectionList_holdsIn (hfour.within hc₁ h₂) (except_map_eq_error.1 h)
  · cases h
    obtain ⟨_, rfl, hs⟩ := (Decode.reads_placed Decode.reads_fourBytes [.header] _ _ _).1 h₁
    exact ⟨(hstart.region hs).room, (hstart.slice hs).symm⟩

end Module

/-- What a report about the input at `o` says of it, by the kind of the report. -/
inductive Report.TrueAt (limit : Nat) (data : List UInt8) (o : Nat) (r : Report) : Prop
  | byte {b : UInt8} (kind : r.kind = .invalidOpcode ∨ r.kind = .invalidFuncTypeTag ∨
      r.kind = .invalidValType ∨ r.kind = .unknownSectionId) (value : r.value = .int b.toNat)
      (stands : data[o]? = some b) : TrueAt limit data o r
  | otherwise (kind : r.kind = .unexpectedElse) (stands : data[o]? = some 0x05) :
      TrueAt limit data o r
  | nesting {b : UInt8} (kind : r.kind = .invalidInput) (value : r.value = .int limit)
      (stands : data[o]? = some b) (opens : b = 0x02 ∨ b = 0x03 ∨ b = 0x04) :
      TrueAt limit data o r
  | trailing {n : Nat} (kind : r.kind = .trailingBytes) (value : r.value = .int n)
      (present : 1 ≤ n) (fits : o + n ≤ data.length)
      (after : 1 ≤ o ∧ data[o - 1]? = some 0x0B) : TrueAt limit data o r
  | magic (kind : r.kind = .invalidMagic) (start : o = 0) (fits : 4 ≤ data.length)
      (value : r.value = .bytes (data.take 4)) : TrueAt limit data o r
  /-- The bytes are those of a name: their number stands right before them. -/
  | utf8 {size : List UInt8} {n : UInt32} (kind : r.kind = .invalidUtf8)
      (fits : o + n.toNat ≤ data.length)
      (invalid : ¬ ((data.drop o).take n.toNat).toByteArray.IsValidUTF8)
      (before : size <:+ data.take o) (number : Leb128.Unsigned size n) : TrueAt limit data o r
  | underrun {want : Int} {remaining : Nat} (kind : r.kind = .bufferUnderrun)
      (value : r.value = .int want)
      (detail : r.detail =
        "need " ++ toString want ++ " byte(s), " ++ toString (remaining : Int) ++ " remaining")
      (short : remaining < want) (fits : o + remaining ≤ data.length) : TrueAt limit data o r

theorem Defect.HoldsIn.trueAt {limit : Nat} {data : List UInt8} {d : Defect}
    (h : d.HoldsIn limit data) :
    ∃ o : Nat, d.report.offset = o ∧ o ≤ data.length ∧ d.report.TrueAt limit data o := by
  have hin {o : Nat} {b : UInt8} (hb : data[o]? = some b) : o ≤ data.length :=
    Nat.le_of_lt (List.getElem?_eq_some_iff.1 hb).1
  cases d with
  | underrun offset want remaining =>
    obtain ⟨hshort, hfits⟩ := h
    exact ⟨offset, rfl, by omega, .underrun rfl rfl rfl hshort hfits⟩
  | invalidUtf8 offset bytes =>
    obtain ⟨hinvalid, hfits, hslice, size, n, hbefore, hnumber, hn⟩ := h
    refine ⟨offset, rfl, by omega, .utf8 rfl (by rwa [hn]) ?_ hbefore hnumber⟩
    rwa [hn, hslice]
  | invalidMagic got =>
    obtain ⟨hfits, rfl⟩ := h
    exact ⟨0, rfl, Nat.zero_le _, .magic rfl rfl hfits rfl⟩
  | invalidValType offset tag =>
    exact ⟨offset, rfl, hin h, .byte (.inr (.inr (.inl rfl))) rfl h⟩
  | invalidFuncTypeTag offset tag => exact ⟨offset, rfl, hin h, .byte (.inr (.inl rfl)) rfl h⟩
  | invalidOpcode offset code => exact ⟨offset, rfl, hin h, .byte (.inl rfl) rfl h⟩
  | unexpectedElse offset => exact ⟨offset, rfl, hin h, .otherwise rfl h⟩
  | unknownSection offset id =>
    exact ⟨offset, rfl, hin h, .byte (.inr (.inr (.inr rfl))) rfl h⟩
  | nestingTooDeep offset bound =>
    obtain ⟨rfl, code, hcode, hopens⟩ := h
    exact ⟨offset, rfl, hin hcode, .nesting rfl rfl hcode hopens⟩
  | trailingBytes offset count =>
    obtain ⟨hpresent, hfits, hafter⟩ := h
    exact ⟨offset, rfl, by omega, .trailing rfl rfl hpresent hfits hafter⟩

theorem DecodeFailure.firstReport_failure (f : DecodeFailure) :
    f.failure.firstReport? = some f.defect.report := by
  obtain ⟨places, defect⟩ := f
  induction places with
  | nil => rfl
  | cons place places ih => exact ih

/-- Where decoding fails, the failure holds a report on a position of the input, and what the report
says of the input there is so. -/
theorem Module.decode_error_true {options : DecodeOptions} {data : List UInt8}
    {f : DecodeFailure} (h : decode options data = .error f) :
    ∃ r, f.failure.firstReport? = some r ∧ ∃ o : Nat, r.offset = o ∧ o ≤ data.length ∧
      r.TrueAt options.maxNesting data o := by
  rw [decode_eq_answer] at h
  exact ⟨_, f.firstReport_failure, (answer_holdsIn h).trueAt⟩

/-- Two bytes behind the end of a body, two regions deep. -/
theorem Module.decode_error_true_trailing :
    let data : List UInt8 := [0x00, 0x61, 0x73, 0x6D, 1, 0, 0, 0,
      0x0A, 0x06, 0x01, 0x04, 0x00, 0x0B, 0xFF, 0xFF]
    let f : DecodeFailure := ⟨[.content .code, .body 0], .trailingBytes 14 2⟩
    decode ⟨true, 1⟩ data = .error f ∧
      ∃ r, f.failure.firstReport? = some r ∧ ∃ o : Nat, r.offset = o ∧ o ≤ data.length ∧
        r.TrueAt 1 data o := by
  intro data f
  have h : decode ⟨true, 1⟩ data = .error f := by decide +kernel
  exact ⟨h, decode_error_true h⟩

end WasmScope

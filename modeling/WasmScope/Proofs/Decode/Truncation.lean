import WasmScope.Proofs.Decode.Concat
import WasmScope.Proofs.Grammar.Layout

namespace WasmScope

def DecodeFailure.IsUnderrun (f : DecodeFailure) : Prop := f.defect.report.kind = .bufferUnderrun

namespace Decode

variable {options : DecodeOptions}

theorem leb128_error {α : Type} {value : Leb128.Scan → α} {c : Cursor} {d : Defect}
    (h : Reader.leb128 value c = .error d) : d.report.kind = .bufferUnderrun := by
  unfold Reader.leb128 at h
  split at h
  · cases h
    rfl
  · cases h

theorem region_error {n : Int} {c : Cursor} {d : Defect} (h : Reader.region n c = .error d) :
    d.report.kind = .bufferUnderrun := by
  unfold Reader.region Reader.bytes at h
  split at h
  · next hb =>
    cases h
    split at hb
    · cases hb
    · cases hb
      rfl
  · cases h

/-- Framing looks at no contents, so it can only run out of bytes. -/
theorem sectionFrame_isUnderrun {id : SectionId} {offset : Nat} {c : Cursor} {f : DecodeFailure}
    (h : sectionFrame id offset c = .error f) : f.IsUnderrun := by
  unfold sectionFrame at h
  split at h
  · next hsize =>
    cases h
    exact leb128_error hsize
  · split at h
    · next hregion =>
      cases h
      exact region_error hregion
    · cases h

theorem fourBytes_short {c : Cursor} (h : c.unread.length < 4) :
    fourBytes c = .error (c.underrun 4) := by
  unfold fourBytes
  split
  · next hc =>
    simp only [hc, List.length_cons] at h
    omega
  · rfl

theorem sectionFrame_take {j : Nat} {front content : List UInt8} {n : UInt32}
    (size : Leb128.Unsigned front n) (extent : n.toNat = content.length)
    (hj : j < (front ++ content).length) (id : SectionId) (position : Nat) :
    ∃ f, sectionFrame id position ⟨position + 1, (front ++ content).take j⟩ = .error f ∧
      f.IsUnderrun := by
  cases hframe : sectionFrame id position ⟨position + 1, (front ++ content).take j⟩ with
  | error f => exact ⟨f, rfl, sectionFrame_isUnderrun hframe⟩
  | ok p =>
    obtain ⟨frame, rest⟩ := p
    obtain ⟨-, -, front', bs, hfront, hlength, -, hspan⟩ := sectionFrame_eq_ok_iff.1 hframe
    have hunread : (front ++ content).take j = front' ++ bs ++ rest.unread := hspan.unread
    -- the size that was read is the declared one, and so many bytes are not there
    have hwhole : front ++ content =
        front' ++ (bs ++ rest.unread ++ (front ++ content).drop j) := by
      rw [← List.append_assoc, ← List.append_assoc, ← hunread, List.take_append_drop]
    obtain ⟨hn, hsame⟩ := Reader.reads_u32.unambiguous size hfront hwhole
    have htaken := congrArg List.length hunread
    rw [List.length_take, List.length_append, List.length_append, List.length_append,
      hlength, ← hn, ← hsame, extent] at htaken
    rw [List.length_append] at hj
    omega

theorem sectionList_take_first {s : Section} {bs : List UInt8} {j : Nat}
    (h : Section.Written options bs s) (hpos : 0 < j) (hj : j < bs.length) (position : Nat) :
    ∃ f, sectionList options ⟨position, bs.take j⟩ = .error f ∧ f.IsUnderrun := by
  obtain ⟨i, rfl⟩ := Nat.exists_eq_add_of_lt hpos
  cases h with
  | @mk s front bs trailing n size extent content =>
    rw [List.length_cons] at hj
    obtain ⟨f, hf, hunder⟩ := sectionFrame_take size extent (show i < _ by omega) s.id position
    have hunread : (s.id.byte :: (front ++ (bs ++ trailing))).take (0 + i + 1) =
        s.id.byte :: (front ++ (bs ++ trailing)).take i := by simp
    exact ⟨f, sectionList_error hunread hf, hunder⟩

section Cut

variable {start j : Nat} {front part back : List UInt8} {before after : List SectionLayout}
  {x : SectionLayout}

theorem mem_starts_iff (hbefore : Format.Sequence Section.Laid start front before)
    (hx : Section.Laid (start + front.length) part x)
    (hafter : Format.Sequence Section.Laid (start + front.length + part.length) back after)
    (hle : front.length ≤ j) (hlt : j < front.length + part.length) :
    start + j ∈ (before ++ x :: after).map (·.start) ↔ j = front.length := by
  obtain ⟨hstart, -, -⟩ := hx.extent
  rw [List.map_append, List.mem_append, List.map_cons, List.mem_cons, hstart]
  refine ⟨fun hmem => ?_, fun hj => .inr (.inl (by rw [hj]))⟩
  rcases hmem with hmem | hmem | hmem
  · obtain ⟨y, hy, hstart⟩ := List.mem_map.1 hmem
    have := Section.bounds hbefore hy
    omega
  · omega
  · obtain ⟨y, hy, hstart⟩ := List.mem_map.1 hmem
    have := Section.bounds hafter hy
    omega

theorem filter_stops (hbefore : Format.Sequence Section.Laid start front before)
    (hx : Section.Laid (start + front.length) part x)
    (hafter : Format.Sequence Section.Laid (start + front.length + part.length) back after)
    (hle : front.length ≤ j) (hlt : j < front.length + part.length) :
    (before ++ x :: after).filter (·.stop ≤ start + j) = before := by
  obtain ⟨-, hstop, -⟩ := hx.extent
  have hkept : before.filter (·.stop ≤ start + j) = before := by
    apply List.filter_eq_self.2
    intro y hy
    have := Section.bounds hbefore hy
    exact decide_eq_true (by omega)
  have hdropped : (x :: after).filter (·.stop ≤ start + j) = [] := by
    apply List.filter_eq_nil_iff.2
    intro y hy
    rw [decide_eq_true_eq]
    rcases List.mem_cons.1 hy with rfl | hy
    · omega
    · have := Section.bounds hafter hy
      omega
  rw [List.filter_append, hkept, hdropped, List.append_nil]

end Cut

/-- Sections that are cut off: at the start of one of them, those before it are read, and elsewhere
the reading fails. -/
theorem sectionList_take {start j : Nat} {bs : List UInt8} {layout : List SectionLayout}
    (h : Format.Sequence Section.Laid start bs layout)
    (hfaults : ∀ x ∈ layout, ∀ b ∈ x.bodies, b.fault options = none) (hj : j < bs.length) :
    (start + j ∈ layout.map (·.start) ∧ sectionList options ⟨start, bs.take j⟩ =
        .ok ((layout.filter (·.stop ≤ start + j)).map (·.content))) ∨
      start + j ∉ layout.map (·.start) ∧
        ∃ f, sectionList options ⟨start, bs.take j⟩ = .error f ∧ f.IsUnderrun := by
  obtain ⟨before, x, after, front, part, back, rfl, rfl, hbefore, hx, hafter, hle, hlt⟩ :=
    h.split hj
  obtain ⟨hearlier, hlater⟩ := List.forall_mem_append.1 hfaults
  have hsections : Format.Many (Section.Written options) front (before.map (·.content)) :=
    Section.many_iff_laid.2 ⟨before, hbefore, rfl, hearlier⟩
  have hwritten : Section.Written options part x.content :=
    Section.written_iff_laid.2 ⟨x, hx, rfl, (List.forall_mem_cons.1 hlater).1⟩
  have htake : (front ++ (part ++ back)).take j = front ++ part.take (j - front.length) := by
    rw [List.take_append, List.take_of_length_le hle,
      List.take_append_of_le_length (by omega)]
  rw [mem_starts_iff hbefore hx hafter hle hlt, filter_stops hbefore hx hafter hle hlt, htake,
    sectionList_append hsections]
  by_cases hedge : j = front.length
  · refine .inl ⟨hedge, ?_⟩
    rw [hedge, Nat.sub_self, List.take_zero, sectionList_nil rfl]
    simp [Except.map]
  · obtain ⟨f, hf, hunder⟩ := sectionList_take_first hwritten (show 0 < j - front.length by omega)
      (show j - front.length < part.length by omega) (start + front.length)
    exact .inr ⟨hedge, f, except_map_eq_error.2 hf, hunder⟩

end Decode

namespace Module

variable {options : DecodeOptions} {data : List UInt8} {m : Module}

theorem length_header (version : FourBytes) (bs : List UInt8) :
    (FourBytes.magic.toList ++ version.toList ++ bs).length = 8 + bs.length := by
  rw [List.length_append]
  rfl

theorem decode_take_header (version : FourBytes) (bs : List UInt8) {k : Nat} (hk : k < 8) :
    ∃ f, decode options ((FourBytes.magic.toList ++ version.toList ++ bs).take k) = .error f ∧
      f.IsUnderrun := by
  rw [List.append_assoc, decode_eq_answer]
  by_cases hfour : k < 4
  · have hshort := Decode.fourBytes_short
      (c := .ofBytes ((FourBytes.magic.toList ++ (version.toList ++ bs)).take k))
      ((List.length_take_le k _).trans_lt hfour)
    exact ⟨_, except_bind_eq_error.2 (.inl (except_mapError_eq_error.2 ⟨_, hshort, rfl⟩)), rfl⟩
  · -- the magic bytes are there, so it is the version that is not
    have hversion (bs : List UInt8) : answer options (FourBytes.magic.toList ++ bs) =
        (Decode.placed [.header] Decode.fourBytes ⟨4, bs⟩).bind fun p =>
          (Decode.sectionList options p.2).map (⟨.magic, p.1, ·⟩) := rfl
    have hmagic : FourBytes.magic.toList.length ≤ k := Nat.not_lt.1 hfour
    have hshort := Decode.fourBytes_short
      (c := ⟨4, (version.toList ++ bs).take (k - FourBytes.magic.toList.length)⟩)
      ((List.length_take_le _ _).trans_lt (Nat.sub_lt_left_of_lt_add hmagic hk))
    rw [List.take_append, List.take_of_length_le hmagic, hversion]
    exact ⟨_, except_bind_eq_error.2 (.inl (except_mapError_eq_error.2 ⟨_, hshort, rfl⟩)), rfl⟩

theorem decode_take_sections (version : FourBytes) (bs : List UInt8) (j : Nat) :
    decode options ((FourBytes.magic.toList ++ version.toList ++ bs).take (8 + j)) =
      (Decode.sectionList options ⟨8, bs.take j⟩).map (⟨.magic, version, ·⟩) := by
  have hheader : (FourBytes.magic.toList ++ version.toList).length = 8 := rfl
  rw [List.take_append, List.take_of_length_le (by omega), hheader, Nat.add_sub_cancel_left,
    decode_header]

theorem decode_take_cases {bs : List UInt8} {layout : List SectionLayout} {k : Nat}
    (items : Format.Sequence Section.Laid 8 bs layout)
    (hfaults : ∀ x ∈ layout, ∀ b ∈ x.bodies, b.fault options = none) (version : FourBytes)
    (hk : k < 8 + bs.length) :
    let part := (FourBytes.magic.toList ++ version.toList ++ bs).take k
    (k ∈ layout.map (·.start) ∧ decode options part =
        .ok ⟨.magic, version, (layout.filter (·.stop ≤ k)).map (·.content)⟩) ∨
      k ∉ layout.map (·.start) ∧ ∃ f, decode options part = .error f ∧ f.IsUnderrun := by
  intro part
  by_cases hheader : k < 8
  · refine .inr ⟨fun hmem => ?_, decode_take_header version bs hheader⟩
    obtain ⟨x, hx, hstart⟩ := List.mem_map.1 hmem
    have := Section.bounds items hx
    omega
  · obtain ⟨j, rfl⟩ := Nat.exists_eq_add_of_le (Nat.not_lt.1 hheader)
    rw [decode_take_sections]
    rcases Decode.sectionList_take items hfaults (Nat.lt_of_add_lt_add_left hk) with
      ⟨hmem, hok⟩ | ⟨hnot, f, hf, hunder⟩
    · exact .inl ⟨hmem, except_map_eq_ok.2 ⟨_, hok, rfl⟩⟩
    · exact .inr ⟨hnot, f, except_map_eq_error.2 hf, hunder⟩

/-- An input that can be decoded, cut off in front of its end. Its sections follow each other from
the eighth byte to the end; where the cut is at the start of one of them, decoding gives the
sections that end at or before it, and at every other cut it fails for want of bytes. -/
theorem decode_take (h : decode options data = .ok m) :
    ∃ layout, Laid data m layout ∧
      8 :: layout.map (·.stop) = layout.map (·.start) ++ [data.length] ∧
      (∀ x ∈ layout, x.start < x.stop) ∧
      ∀ k < data.length,
        ((∃ m', decode options (data.take k) = .ok m') ↔ k ∈ layout.map (·.start)) ∧
        (∀ m', decode options (data.take k) = .ok m' → m' =
          ⟨m.magic, m.version, (layout.filter (·.stop ≤ k)).map (·.content)⟩) ∧
        (k ∉ layout.map (·.start) →
          ∃ f, decode options (data.take k) = .error f ∧ f.IsUnderrun) := by
  obtain ⟨layout, hlaid, hfaults⟩ := decode_iff_laid.1 h
  refine ⟨layout, hlaid, ?_⟩
  obtain ⟨version, items⟩ := hlaid
  rw [← List.append_assoc, length_header]
  refine ⟨Section.tiles items, fun x hx => (Section.bounds items hx).2.1, fun k hk => ?_⟩
  rcases decode_take_cases items hfaults version hk with ⟨hmem, hok⟩ | ⟨hnot, f, hf, hunder⟩
  · rw [hok]
    exact ⟨iff_of_true ⟨_, rfl⟩ hmem, fun m' hm' => (Except.ok.inj hm').symm, absurd hmem⟩
  · rw [hf]
    exact ⟨iff_of_false nofun hnot, nofun, fun _ => ⟨f, rfl, hunder⟩⟩

/-- A section of function types and one of type indices, whose size has a group too many: the input
can be cut at the second section, but not inside its size. -/
theorem decode_take_two_sections :
    let data : List UInt8 := [0x00, 0x61, 0x73, 0x6D, 1, 0, 0, 0,
      0x01, 0x04, 0x01, 0x60, 0x00, 0x00, 0x03, 0x82, 0x00, 0x01, 0x00]
    let m : Module := ⟨.magic, .version1, [.types [⟨[], []⟩], .functions [0]]⟩
    decode {} data = .ok m ∧ ∃ layout, Laid data m layout ∧ 14 ∈ layout.map (·.start) ∧
      16 ∉ layout.map (·.start) ∧ ∃ f, decode {} (data.take 16) = .error f ∧ f.IsUnderrun := by
  intro data m
  have h : decode {} data = .ok m := by decide +kernel
  have hfirst : decode {} (data.take 14) = .ok ⟨.magic, .version1, [.types [⟨[], []⟩]]⟩ := by
    decide +kernel
  have hsize : decode {} (data.take 16) = .error ⟨[.sectionSize], .underrun 16 1 0⟩ := by
    decide +kernel
  obtain ⟨layout, hlaid, -, -, hcut⟩ := decode_take h
  obtain ⟨hstart, -, -⟩ := hcut 14 (by decide)
  obtain ⟨hinside, -, hunder⟩ := hcut 16 (by decide)
  have hnot : 16 ∉ layout.map (·.start) := by
    intro hmem
    obtain ⟨m', hm'⟩ := hinside.2 hmem
    cases hsize.symm.trans hm'
  exact ⟨h, layout, hlaid, hstart.1 ⟨_, hfirst⟩, hnot, hunder hnot⟩

end Module

end WasmScope

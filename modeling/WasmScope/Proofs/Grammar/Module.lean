import WasmScope.Proofs.Decode.Outcome
import WasmScope.Proofs.Grammar.Expr

namespace WasmScope

/-- A size and that many bytes: local entries, an expression closed by an end, and bytes that do not
count, of which there are none where bodies are read strictly. -/
inductive FuncBody.Written (options : DecodeOptions) : Format FuncBody
  | mk {fb : FuncBody} {front ls es trailing : List UInt8} (size : Leb128.Unsigned front fb.size)
      (extent : fb.size.toNat = (ls ++ (es ++ trailing)).length)
      (locals : Format.Counted LocalEntry.Written ls fb.locals)
      (code : Expr.Written options.maxNesting .close es fb.body)
      (tight : options.strict = true → trailing = []) :
      Written options (front ++ (ls ++ (es ++ trailing))) fb

/-- The vector that each kind of section consists of. -/
inductive Section.Content (options : DecodeOptions) : Format Section
  | types {bs : List UInt8} {xs : List FuncType} (entries : Format.Counted FuncType.Written bs xs) :
      Content options bs (.types xs)
  | functions {bs : List UInt8} {xs : List UInt32}
      (entries : Format.Counted Leb128.Unsigned bs xs) : Content options bs (.functions xs)
  | exports {bs : List UInt8} {xs : List Export} (entries : Format.Counted Export.Written bs xs) :
      Content options bs (.exports xs)
  | code {bs : List UInt8} {xs : List FuncBody}
      (entries : Format.Counted (FuncBody.Written options) bs xs) : Content options bs (.code xs)

/-- An id, a size and that many bytes: the contents, and bytes that do not count. -/
inductive Section.Written (options : DecodeOptions) : Format Section
  | mk {s : Section} {front bs trailing : List UInt8} {n : UInt32} (size : Leb128.Unsigned front n)
      (extent : n.toNat = (bs ++ trailing).length) (content : Content options bs s) :
      Written options (s.id.byte :: (front ++ (bs ++ trailing))) s

/-- The magic bytes, any version, and sections up to the end. -/
inductive Module.Written (options : DecodeOptions) : Format Module
  | mk {bs : List UInt8} {ss : List Section} (version : FourBytes)
      (sections : Format.Many (Section.Written options) bs ss) :
      Written options (FourBytes.magic.toList ++ (version.toList ++ bs)) ⟨.magic, version, ss⟩

theorem Reader.region_natCast_eq_ok_iff {n : Nat} {c region rest : Cursor} :
    Reader.region n c = .ok (region, rest) ↔
      ∃ bs, bs.length = n ∧ region = ⟨c.position, bs⟩ ∧ c.Spans bs rest := by
  simp only [region_eq_ok_iff, Int.natCast_inj]

namespace Decode

theorem placed_eq_ok_iff {α : Type} {places : List Place} {r : Reader α} {c : Cursor}
    {p : α × Cursor} : placed places r c = .ok p ↔ r c = .ok p := except_mapError_eq_ok

theorem reads_placed {α : Type} {r : Reader α} {F : Format α} (h : Reader.Reads r F)
    (places : List Place) : Reader.Reads (placed places r) F := by
  intro c x rest
  rw [placed_eq_ok_iff, h c x rest]

theorem bodyContent_eq_ok_iff {options : DecodeOptions} {size : UInt32} {c : Cursor}
    {fb : FuncBody} :
    (∃ read rest, bodyContent options size c = .ok (read, rest) ∧ read.body = fb) ↔
      fb.size = size ∧ ∃ ls es trailing, c.unread = ls ++ (es ++ trailing) ∧
        Format.Counted LocalEntry.Written ls fb.locals ∧
        Expr.Written options.maxNesting .close es fb.body ∧
        (options.strict = true → trailing = []) := by
  have hlocals := Reader.reads_vector Reader.reads_localEntry
  have hcode := Reader.reads_closedExpr { limit := options.maxNesting }
  unfold bodyContent
  constructor
  · intro hw
    obtain ⟨read, rest, hread, rfl⟩ := hw
    obtain ⟨locals, c₁, h₁, hread⟩ := Reader.bind_eq_ok.1 hread
    obtain ⟨e, c₂, h₂, hread⟩ := Reader.bind_eq_ok.1 hread
    obtain ⟨ls, hls, hs₁⟩ := (hlocals _ _ _).1 h₁
    obtain ⟨es, hes, hs₂⟩ := (hcode _ _ _).1 h₂
    have hunread : c.unread = ls ++ (es ++ c₂.unread) := by rw [hs₁.unread, hs₂.unread]
    split at hread
    · next hempty =>
      cases hread
      exact ⟨rfl, ls, es, _, hunread, hls, hes, fun _ => List.isEmpty_iff.1 hempty⟩
    · split at hread
      · cases hread
      · next hstrict =>
        cases hread
        exact ⟨rfl, ls, es, _, hunread, hls, hes, fun h => absurd h hstrict⟩
  · intro hw
    obtain ⟨rfl, ls, es, trailing, hunread, hls, hes, htight⟩ := hw
    have hs₁ : c.Spans ls ⟨c.position + ls.length, es ++ trailing⟩ := ⟨hunread, rfl⟩
    have h₁ := (hlocals _ _ _).2 ⟨ls, hls, hs₁⟩
    have h₂ := (hcode _ _ _).2 ⟨es, hes, Cursor.spans_front (c.position + ls.length) es trailing⟩
    have hend {read : BodyRead} {rest : Cursor} (hread : _ = Except.ok (read, rest)) :
        bodyContent options fb.size c = .ok (read, rest) :=
      Reader.bind_eq_ok.2 ⟨_, _, h₁, Reader.bind_eq_ok.2 ⟨_, _, h₂, hread⟩⟩
    by_cases hempty : trailing.isEmpty = true
    · exact ⟨_, _, hend (if_pos hempty), rfl⟩
    · have hstrict : ¬ options.strict = true := fun h => hempty (by rw [htight h]; rfl)
      exact ⟨_, _, hend ((if_neg hempty).trans (if_neg hstrict)), rfl⟩

theorem body_eq_ok_iff {options : DecodeOptions} {c rest : Cursor} {read : BodyRead} :
    body options c = .ok (read, rest) ↔ ∃ size mid region rest', Reader.u32 c = .ok (size, mid) ∧
      Reader.region size.toNat mid = .ok (region, rest) ∧
      bodyContent options size region = .ok (read, rest') := by
  unfold body
  constructor
  · intro h
    obtain ⟨size, mid, hsize, h⟩ := Reader.bind_eq_ok.1 h
    obtain ⟨region, mid', hregion, h⟩ := Reader.bind_eq_ok.1 h
    cases hread : bodyContent options size region with
    | error d =>
      rw [hread] at h
      cases h
    | ok p =>
      rw [hread] at h
      cases h
      exact ⟨size, mid, region, _, hsize, hregion, hread⟩
  · intro hw
    obtain ⟨size, mid, region, rest', hsize, hregion, hread⟩ := hw
    refine Reader.bind_eq_ok.2 ⟨size, mid, hsize, Reader.bind_eq_ok.2 ⟨region, rest, hregion, ?_⟩⟩
    rw [hread]
    rfl

theorem reads_placedBody (options : DecodeOptions) (index : Nat) :
    Reader.Reads (placedBody options index) (FuncBody.Written options) := by
  intro c fb rest
  have hbody : placedBody options index c = .ok (fb, rest) ↔
      ∃ read, body options c = .ok (read, rest) ∧ read.body = fb := by
    unfold placedBody
    rw [Reader.bind_eq_ok]
    constructor
    · intro h
      obtain ⟨read, mid, hread, hfb⟩ := h
      cases hfb
      exact ⟨read, placed_eq_ok_iff.1 hread, rfl⟩
    · intro h
      obtain ⟨read, hread, rfl⟩ := h
      exact ⟨read, rest, placed_eq_ok_iff.2 hread, rfl⟩
  rw [hbody]
  constructor
  · intro h
    obtain ⟨read, hread, hfb⟩ := h
    obtain ⟨size, mid, region, rest', hsize, hregion, hcontent⟩ := body_eq_ok_iff.1 hread
    obtain ⟨front, hfront, hs⟩ := (Reader.reads_u32 _ _ _).1 hsize
    obtain ⟨bs, hlen, rfl, hs'⟩ := Reader.region_natCast_eq_ok_iff.1 hregion
    obtain ⟨rfl, ls, es, trailing, rfl, hls, hes, htight⟩ :=
      bodyContent_eq_ok_iff.1 ⟨read, rest', hcontent, hfb⟩
    exact ⟨_, ⟨hfront, hlen.symm, hls, hes, htight⟩, hs.append hs'⟩
  · intro h
    obtain ⟨_, ⟨hfront, hlen, hls, hes, htight⟩, hs⟩ := h
    obtain ⟨mid, hs, hs'⟩ := hs.split
    obtain ⟨read, rest', hcontent, hfb⟩ := bodyContent_eq_ok_iff (c := ⟨mid.position, _⟩).2
      ⟨rfl, _, _, _, rfl, hls, hes, htight⟩
    have hsize := (Reader.reads_u32 _ _ _).2 ⟨_, hfront, hs⟩
    have hregion := Reader.region_natCast_eq_ok_iff.2 ⟨_, hlen.symm, rfl, hs'⟩
    exact ⟨read, body_eq_ok_iff.2 ⟨_, _, _, rest', hsize, hregion, hcontent⟩, hfb⟩

theorem placedContent_isSome (options : DecodeOptions) (s : Section) :
    (placedContent options s.id).isSome = true := by
  cases s <;> rfl

theorem reads_placedContent {options : DecodeOptions} {id : SectionId}
    {r : PlacedReader Section} (h : placedContent options id = some r) :
    Reader.Reads r fun bs s => s.id = id ∧ Section.Content options bs s := by
  obtain ⟨b⟩ := id
  unfold placedContent at h
  dsimp only at h
  split at h
  · cases h
    refine ((reads_placed (Reader.reads_vector Reader.reads_funcType) []).map _).congr
      fun bs s => ?_
    constructor
    · intro hw
      obtain ⟨xs, hxs, rfl⟩ := hw
      exact ⟨rfl, .types hxs⟩
    · intro hw
      obtain ⟨hid, hs⟩ := hw
      cases hs with
      | types entries => exact ⟨_, entries, rfl⟩
      | functions => cases hid
      | exports => cases hid
      | code => cases hid
  · cases h
    refine ((reads_placed (Reader.reads_vector Reader.reads_u32) []).map _).congr
      fun bs s => ?_
    constructor
    · intro hw
      obtain ⟨xs, hxs, rfl⟩ := hw
      exact ⟨rfl, .functions hxs⟩
    · intro hw
      obtain ⟨hid, hs⟩ := hw
      cases hs with
      | types => cases hid
      | functions entries => exact ⟨_, entries, rfl⟩
      | exports => cases hid
      | code => cases hid
  · cases h
    refine ((reads_placed (Reader.reads_vector Reader.reads_exportEntry) []).map _).congr
      fun bs s => ?_
    constructor
    · intro hw
      obtain ⟨xs, hxs, rfl⟩ := hw
      exact ⟨rfl, .exports hxs⟩
    · intro hw
      obtain ⟨hid, hs⟩ := hw
      cases hs with
      | types => cases hid
      | functions => cases hid
      | exports entries => exact ⟨_, entries, rfl⟩
      | code => cases hid
  · cases h
    refine ((reads_placed Reader.reads_u32 []).bind fun count => (Reader.reads_repeated
      (reads_placedBody options) count.toNat 0 []).bind_pure Section.code).congr fun bs s => ?_
    constructor
    · intro hw
      obtain ⟨count, front, back, hcount, ⟨xs, ⟨new, hm, hlen, rfl⟩, rfl⟩, rfl⟩ := hw
      exact ⟨rfl, .code ⟨hcount, hlen.symm, hm⟩⟩
    · intro hw
      obtain ⟨hid, hs⟩ := hw
      cases hs with
      | types => cases hid
      | functions => cases hid
      | exports => cases hid
      | code entries =>
        obtain ⟨hcount, hlen, hm⟩ := entries
        exact ⟨_, _, _, hcount, ⟨_, ⟨_, hm, hlen.symm, rfl⟩, rfl⟩, rfl⟩
  · cases h

theorem answer_eq_ok_iff {options : DecodeOptions} {frame : SectionFrame} {s : Section} :
    frame.answer options = .ok s ↔ s.id = frame.id ∧
      ∃ bs trailing, frame.content.unread = bs ++ trailing ∧ Section.Content options bs s := by
  unfold SectionFrame.answer
  cases hc : placedContent options frame.id with
  | none =>
    apply iff_of_false (fun h => by cases h)
    intro h
    have hsome := placedContent_isSome options s
    rw [h.1, hc] at hsome
    cases hsome
  | some r =>
    have hread := reads_placedContent hc
    dsimp only
    constructor
    · intro h
      cases hr : r frame.content with
      | error f =>
        rw [hr] at h
        cases h
      | ok p =>
        obtain ⟨s', rest⟩ := p
        rw [hr] at h
        cases h
        obtain ⟨bs, ⟨hid, hcontent⟩, hs⟩ := (hread _ _ _).1 hr
        exact ⟨hid, bs, rest.unread, hs.unread, hcontent⟩
    · intro hw
      obtain ⟨hid, bs, trailing, hunread, hcontent⟩ := hw
      have hs : frame.content.Spans bs ⟨frame.content.position + bs.length, trailing⟩ :=
        ⟨hunread, rfl⟩
      rw [(hread _ _ _).2 ⟨bs, ⟨hid, hcontent⟩, hs⟩]
      rfl

theorem sectionFrame_eq_ok_iff {id : SectionId} {offset : Nat} {c rest : Cursor}
    {frame : SectionFrame} :
    sectionFrame id offset c = .ok (frame, rest) ↔ frame.id = id ∧ frame.offset = offset ∧
      ∃ front bs, Leb128.Unsigned front frame.size ∧ bs.length = frame.size.toNat ∧
        frame.content = ⟨c.position + front.length, bs⟩ ∧ c.Spans (front ++ bs) rest := by
  unfold sectionFrame
  constructor
  · intro h
    split at h
    · cases h
    · next size mid hsize =>
      split at h
      · cases h
      · next region rest' hregion =>
        cases h
        obtain ⟨front, hfront, hs⟩ := (Reader.reads_u32 _ _ _).1 hsize
        obtain ⟨bs, hlen, rfl, hs'⟩ := Reader.region_natCast_eq_ok_iff.1 hregion
        refine ⟨rfl, rfl, front, bs, hfront, hlen, ?_, hs.append hs'⟩
        rw [hs.position]
  · intro hw
    obtain ⟨rfl, rfl, front, bs, hfront, hlen, hcontent, hs⟩ := hw
    obtain ⟨mid, hs, hs'⟩ := hs.split
    rw [(Reader.reads_u32 _ _ _).2 ⟨front, hfront, hs⟩]
    dsimp only
    rw [Reader.region_natCast_eq_ok_iff.2 ⟨bs, hlen, rfl, hs'⟩, hs.position, ← hcontent]

theorem sectionFrame_front {id : SectionId} {front content : List UInt8} {n : UInt32}
    (size : Leb128.Unsigned front n) (extent : n.toNat = content.length) (position : Nat)
    (more : List UInt8) :
    sectionFrame id position ⟨position + 1, front ++ content ++ more⟩ =
      .ok (⟨id, position, n, ⟨position + 1 + front.length, content⟩⟩,
        ⟨position + 1 + (front ++ content).length, more⟩) :=
  sectionFrame_eq_ok_iff.2 ⟨rfl, rfl, front, content, size, extent.symm, rfl,
    Cursor.spans_front (position + 1) (front ++ content) more⟩

theorem sectionList_written {options : DecodeOptions} {c : Cursor} {bs more : List UInt8}
    {s : Section} (h : Section.Written options bs s) (hc : c.unread = bs ++ more) :
    sectionList options c =
      (sectionList options ⟨c.position + bs.length, more⟩).map (s :: ·) := by
  cases h with
  | @mk s front bs trailing n size extent content =>
    have hanswer : SectionFrame.answer options
        ⟨s.id, c.position, n, ⟨c.position + 1 + front.length, bs ++ trailing⟩⟩ = .ok s :=
      answer_eq_ok_iff.2 ⟨rfl, bs, trailing, rfl, content⟩
    rw [sectionList_cons hc (sectionFrame_front size extent c.position more), hanswer,
      List.length_cons, Nat.add_right_comm, Nat.add_assoc]
    rfl

theorem sectionList_eq_ok_iff {options : DecodeOptions} {c : Cursor} {ss : List Section} :
    sectionList options c = .ok ss ↔ Format.Many (Section.Written options) c.unread ss := by
  constructor
  · intro h
    fun_induction sectionList options c generalizing ss with
    | case1 c hc =>
      cases h
      rw [hc]
      exact .nil
    | case2 => cases h
    | case3 c id after hc frame rest hframe hlt ih =>
      obtain ⟨s, hs, h⟩ := except_bind_eq_ok.1 h
      obtain ⟨ss, hss, rfl⟩ := except_map_eq_ok.1 h
      obtain ⟨hid, hoff, front, bs, hfront, hlen, hcontent, hspan⟩ := sectionFrame_eq_ok_iff.1 hframe
      obtain ⟨hsid, bs', trailing, hunread, hwritten⟩ := answer_eq_ok_iff.1 hs
      obtain rfl : bs = bs' ++ trailing := by rw [← hunread, hcontent]
      have hhead : id = s.id.byte := by rw [hsid, hid]
      have hall : c.unread = (s.id.byte :: (front ++ (bs' ++ trailing))) ++ rest.unread := by
        rw [hc, hhead, List.cons_append, ← hspan.unread]
      rw [hall]
      exact .cons ⟨hfront, hlen.symm, hwritten⟩ (ih hss)
  · intro h
    generalize hc : c.unread = bs at h
    induction h generalizing c with
    | nil => exact sectionList_nil hc
    | @cons front back s ss head tail ih =>
      rw [sectionList_written head hc]
      exact except_map_eq_ok.2 ⟨ss, ih rfl, rfl⟩

theorem reads_fourBytes : Reader.Reads fourBytes fun bs q => bs = q.toList := by
  intro c q rest
  unfold fourBytes
  constructor
  · intro h
    split at h
    · next hc =>
      cases h
      exact ⟨_, rfl, hc, rfl⟩
    · cases h
  · intro hw
    obtain ⟨_, rfl, hs⟩ := hw
    have hc : c.unread = q.b0 :: q.b1 :: q.b2 :: q.b3 :: rest.unread := hs.unread
    have hspan : c.Spans q.toList ⟨c.position + 4, rest.unread⟩ := ⟨hs.unread, rfl⟩
    rw [hc]
    exact congrArg (fun rest => Except.ok (q, rest)) (hspan.unique hs)

end Decode

namespace Module

theorem answer_eq_ok_iff {options : DecodeOptions} {data : List UInt8} {m : Module} :
    answer options data = .ok m ↔ Written options data m := by
  have hfour := Decode.reads_placed Decode.reads_fourBytes [.header]
  unfold answer
  constructor
  · intro h
    obtain ⟨⟨magic, c₁⟩, h₁, h⟩ := except_bind_eq_ok.1 h
    dsimp only at h
    split at h
    · next hm =>
      obtain ⟨⟨version, c₂⟩, h₂, h⟩ := except_bind_eq_ok.1 h
      obtain ⟨ss, hss, rfl⟩ := except_map_eq_ok.1 h
      obtain ⟨_, rfl, hs₁⟩ := (hfour _ _ _).1 h₁
      obtain ⟨_, rfl, hs₂⟩ := (hfour _ _ _).1 h₂
      have hdata : data = magic.toList ++ (version.toList ++ c₂.unread) :=
        hs₁.unread.trans (congrArg _ hs₂.unread)
      rw [hdata, hm]
      exact .mk version (Decode.sectionList_eq_ok_iff.1 hss)
    · cases h
  · intro h
    cases h with
    | @mk bs ss version sections =>
      have h₁ := (hfour _ _ _).2 ⟨_, rfl,
        Cursor.spans_front 0 FourBytes.magic.toList (version.toList ++ bs)⟩
      have h₂ := (hfour _ _ _).2 ⟨_, rfl, Cursor.spans_front 4 version.toList bs⟩
      refine except_bind_eq_ok.2 ⟨_, h₁, (if_pos rfl).trans ?_⟩
      refine except_bind_eq_ok.2 ⟨_, h₂, ?_⟩
      exact except_map_eq_ok.2 ⟨ss, Decode.sectionList_eq_ok_iff.2 sections, rfl⟩

theorem decode_eq_ok_iff {options : DecodeOptions} {data : List UInt8} {m : Module} :
    decode options data = .ok m ↔ Written options data m := by
  rw [decode_eq_answer, answer_eq_ok_iff]

section Parts

variable {options : DecodeOptions} {data : List UInt8} {m : Module}

theorem Written.entry_part {α : Type} {entries : Section → List α} {F : Format α}
    (h : Written options data m) {x : α} (hx : x ∈ m.sections.flatMap entries)
    (hentries : ∀ bs s x, Section.Content options bs s → x ∈ entries s →
      ∃ part, part <:+: bs ∧ F part x) : ∃ part, part <:+: data ∧ F part x := by
  obtain ⟨version, sections⟩ := h
  obtain ⟨s, hs, hx⟩ := List.mem_flatMap.1 hx
  obtain ⟨framed, hframed, hw⟩ := sections.part hs
  have hdata : framed <:+: FourBytes.magic.toList ++ (version.toList ++ _) :=
    List.infix_append_of_infix_right (List.infix_append_of_infix_right hframed)
  cases hw with
  | @mk _ front bs trailing n size extent content =>
    have hbs : bs <:+: s.id.byte :: (front ++ (bs ++ trailing)) :=
      ⟨s.id.byte :: front, trailing, by simp⟩
    obtain ⟨part, hpart, hF⟩ := hentries bs s x content hx
    exact ⟨part, hpart.trans (hbs.trans hdata), hF⟩

theorem Written.type_part (h : Written options data m) {t : FuncType} (ht : t ∈ m.types) :
    ∃ part, part <:+: data ∧ FuncType.Written part t := by
  apply h.entry_part ht
  intro bs s t content ht
  cases content with
  | types entries => exact entries.part ht
  | functions => cases ht
  | exports => cases ht
  | code => cases ht

theorem Written.export_part (h : Written options data m) {e : Export} (he : e ∈ m.exports) :
    ∃ part, part <:+: data ∧ Export.Written part e := by
  apply h.entry_part he
  intro bs s e content he
  cases content with
  | exports entries => exact entries.part he
  | types => cases he
  | functions => cases he
  | code => cases he

theorem Written.body_part (h : Written options data m) {fb : FuncBody} (hfb : fb ∈ m.bodies) :
    ∃ part, part <:+: data ∧ FuncBody.Written options part fb := by
  apply h.entry_part hfb
  intro bs s fb content hfb
  cases content with
  | code entries => exact entries.part hfb
  | types => cases hfb
  | functions => cases hfb
  | exports => cases hfb

end Parts

/-- The strings of the module format are those that decoding accepts, each stands for one module,
and decoding gives that module. -/
theorem decode_accepts_format (options : DecodeOptions) (data : List UInt8) :
    (∀ m, decode options data = .ok m ↔ Written options data m) ∧
      ∀ m m', Written options data m → Written options data m' → m = m' := by
  refine ⟨fun m => decode_eq_ok_iff, fun m m' h h' => ?_⟩
  have hm := decode_eq_ok_iff.2 h
  have hm' := decode_eq_ok_iff.2 h'
  exact Except.ok.inj (hm.symm.trans hm')

end Module

end WasmScope

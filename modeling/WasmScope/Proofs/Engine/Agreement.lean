import Mathlib.Data.List.Forall2
import WasmScope.Proofs.Engine.Exactness
import WasmScope.Proofs.Engine.Standard
import WasmScope.Proofs.Grammar.Module

namespace WasmScope

/-- Where an input begins with a string of each format, it is one string for one value. -/
def Format.Agree {α : Type} (F G : Format α) : Prop :=
  ∀ ⦃bs bs' more more' : List UInt8⦄ ⦃x y : α⦄, F bs x → G bs' y →
    bs ++ more = bs' ++ more' → x = y ∧ bs = bs' ∧ more = more'

/-- A format that some reader reads agrees with each part of it. -/
theorem Reader.Reads.agree {ε α : Type} {r : StateT Cursor (Except ε) α} {F G : Format α}
    (h : Reads r F) (hsub : ∀ bs x, G bs x → F bs x) : F.Agree G := by
  intro bs bs' more more' x y hx hy he
  obtain ⟨hxy, rfl⟩ := h.unambiguous hx (hsub _ _ hy) he
  exact ⟨hxy, rfl, List.append_cancel_left he⟩

namespace Standard

theorem Index.unsigned {bs : List UInt8} {n : UInt32} (h : Index bs n) : Leb128.Unsigned bs n := by
  obtain ⟨groups, _, value⟩ := h
  exact ⟨groups, by rw [value, UInt32.ofNat_toNat]⟩

theorem agree_index : Format.Agree Leb128.Unsigned Index :=
  Reader.reads_u32.agree fun _ _ => Index.unsigned

theorem agree_name : Format.Agree Name.Written Name := by
  apply Reader.reads_name.agree
  intro bs s h
  obtain ⟨size, extent⟩ := h
  exact ⟨size.unsigned, extent⟩

theorem agree_valueType : Format.Agree ValType.Written ValueType := by
  intro bs bs' more more' t t' h h' he
  obtain ⟨rfl, -⟩ := ValType.written_iff.1 h
  obtain ⟨_⟩ := h'
  obtain ⟨htag, rfl⟩ := List.cons.inj he
  cases t
  cases t'
  cases htag
  exact ⟨rfl, rfl, rfl⟩

end Standard

namespace Format.Agree

variable {α : Type} {F G : Format α}

theorem many (h : F.Agree G) {bs bs' more more' : List UInt8} {xs ys : List α}
    (hx : F.Many bs xs) (hy : G.Many bs' ys) (hlength : xs.length = ys.length)
    (he : bs ++ more = bs' ++ more') : xs = ys ∧ bs = bs' ∧ more = more' := by
  induction hx generalizing bs' ys with
  | nil =>
    cases hy with
    | nil => exact ⟨rfl, rfl, he⟩
    | cons => cases hlength
  | cons head tail ih =>
    cases hy with
    | nil => cases hlength
    | cons head' tail' =>
      rw [List.append_assoc, List.append_assoc] at he
      obtain ⟨rfl, rfl, hrest⟩ := h head head' he
      obtain ⟨rfl, rfl, hmore⟩ := ih tail' (Nat.succ.inj hlength) hrest
      exact ⟨rfl, rfl, hmore⟩

theorem counted (h : F.Agree G) : Format.Agree F.Counted (Standard.Vector G) := by
  intro bs bs' more more' xs ys hx hy he
  obtain ⟨count, length, items⟩ := hx
  obtain ⟨count', length', items'⟩ := hy
  rw [List.append_assoc, List.append_assoc] at he
  obtain ⟨rfl, rfl, hrest⟩ := Standard.agree_index count count' he
  obtain ⟨rfl, rfl, hmore⟩ := h.many items items' (length.symm.trans length') hrest
  exact ⟨rfl, rfl, hmore⟩

end Format.Agree

namespace Standard

theorem agree_signature : Format.Agree FuncType.Written Signature := by
  intro bs bs' more more' t t' h h' he
  obtain ⟨params, results⟩ := h
  obtain ⟨params', results'⟩ := h'
  simp only [List.cons_append, List.append_assoc, List.cons.injEq, true_and] at he
  obtain ⟨hparams, rfl, hrest⟩ := agree_valueType.counted params params' he
  obtain ⟨hresults, rfl, hmore⟩ := agree_valueType.counted results results' hrest
  cases t
  cases t'
  cases hparams
  cases hresults
  exact ⟨rfl, rfl, hmore⟩

theorem agree_exported : Format.Agree Export.Written Exported := by
  intro bs bs' more more' e e' h h' he
  obtain ⟨name, index⟩ := h
  obtain ⟨name', kind', index'⟩ := h'
  simp only [List.cons_append, List.append_assoc] at he
  obtain ⟨hname, rfl, hrest⟩ := agree_name name name' he
  obtain ⟨hkind, hrest⟩ := List.cons.inj hrest
  obtain ⟨hindex, rfl, hmore⟩ := agree_index index index' hrest
  obtain ⟨_, ⟨_⟩, _⟩ := e
  obtain ⟨_, ⟨_⟩, _⟩ := e'
  cases hname
  cases hkind
  cases hindex
  exact ⟨rfl, rfl, hmore⟩

end Standard

def Section.ReadFrom (options : DecodeOptions) (s : Section) (f : Standard.Frame) : Prop :=
  s.id.byte = f.id ∧ ∃ bs trailing, f.content = bs ++ trailing ∧ Content options bs s

namespace Section

variable {options : DecodeOptions}

theorem Written.readFrom {bs bs' more more' : List UInt8} {s : Section} {f : Standard.Frame}
    (h : Written options bs s) (h' : Standard.Frame.Written bs' f)
    (he : bs ++ more = bs' ++ more') : s.ReadFrom options f ∧ more = more' := by
  obtain ⟨size, extent, content⟩ := h
  obtain ⟨size', extent'⟩ := h'
  simp only [List.cons_append, List.append_assoc] at he
  obtain ⟨hid, he⟩ := List.cons.inj he
  obtain ⟨rfl, rfl, hrest⟩ := Standard.agree_index size size' he
  rw [← List.append_assoc] at hrest
  obtain ⟨hcontent, hmore⟩ := List.append_inj hrest (extent.symm.trans extent')
  exact ⟨⟨hid, _, _, hcontent.symm, content⟩, hmore⟩

theorem forall₂_readFrom {bs : List UInt8} {ss : List Section} {frames : List Standard.Frame}
    (h : Format.Many (Written options) bs ss) (h' : Format.Many Standard.Frame.Written bs frames) :
    List.Forall₂ (ReadFrom options) ss frames := by
  -- every section has at least its id, so both come to the end of the input together
  induction h generalizing frames with
  | nil =>
    generalize hbs : [] = bs at h'
    cases h' with
    | nil => exact .nil
    | cons head' tail' =>
      obtain ⟨_⟩ := head'
      cases hbs
  | @cons front back s ss head tail ih =>
    generalize hbs : front ++ back = bs at h'
    cases h' with
    | nil =>
      obtain ⟨_⟩ := head
      cases hbs
    | cons head' tail' =>
      obtain ⟨hread, rfl⟩ := head.readFrom head' hbs
      exact .cons hread (ih tail')

end Section

namespace Standard

theorem Ordered.tail {f : Frame} {frames : List Frame} (h : Ordered (f :: frames)) :
    Ordered frames :=
  (((List.sublist_cons_self f frames).map _).filter _).trans h

theorem Ordered.ne_of_mem {f g : Frame} {frames : List Frame} (h : Ordered (f :: frames))
    (hid : f.id ≠ 0) (hg : g ∈ frames) : g.id ≠ f.id := by
  have hnodup := h.nodup (by decide)
  rw [List.map_cons, List.filter_cons_of_pos (by simpa using hid), List.nodup_cons] at hnodup
  intro he
  have hmem : f.id ∈ frames.map (·.id) := he ▸ List.mem_map_of_mem hg
  exact hnodup.1 (List.mem_filter.2 ⟨hmem, by simpa using hid⟩)

theorem Entries.cons_cases {α : Type} {F : Format α} {f : Frame} {frames : List Frame} {id : UInt8}
    {xs : List α} (h : Entries (f :: frames) id F xs) (ordered : Ordered (f :: frames))
    (hid : id ≠ 0) :
    (f.id = id ∧ Vector F f.content xs ∧ Entries frames id F []) ∨
      (f.id ≠ id ∧ Entries frames id F xs) := by
  cases h with
  | missing none =>
    obtain ⟨hf, hframes⟩ := List.forall_mem_cons.1 none
    exact .inr ⟨hf, .missing hframes⟩
  | @found g _ mem kind entries =>
    rcases List.mem_cons.1 mem with rfl | hg
    · refine .inl ⟨kind, entries, .missing fun g hg => ?_⟩
      exact kind ▸ ordered.ne_of_mem (kind ▸ hid) hg
    · refine .inr ⟨fun hf => ?_, .found hg kind entries⟩
      exact ordered.ne_of_mem (hf ▸ hid) hg (kind.trans hf.symm)

end Standard

namespace Section

variable {options : DecodeOptions}

/-- Sections with the id consist of these entries, and other sections have none of them. -/
def Holds (options : DecodeOptions) {α : Type} (id : UInt8) (F : Format α)
    (entries : Section → List α) : Prop :=
  ∀ bs s, Content options bs s → if s.id.byte = id then F.Counted bs (entries s) else entries s = []

theorem holds_types : Holds options 1 FuncType.Written typeEntries := by
  intro bs s content
  cases content with
  | types entries => exact entries
  | functions => rfl
  | exports => rfl
  | code => rfl

theorem holds_functions : Holds options 3 Leb128.Unsigned functionEntries := by
  intro bs s content
  cases content with
  | types => rfl
  | functions entries => exact entries
  | exports => rfl
  | code => rfl

theorem holds_exports : Holds options 7 Export.Written exportEntries := by
  intro bs s content
  cases content with
  | types => rfl
  | functions => rfl
  | exports entries => exact entries
  | code => rfl

theorem holds_imports {α : Type} : Holds options 2 (fun _ _ => False : Format α) fun _ => [] := by
  intro bs s content
  cases content <;> rfl

/-- What all decoded sections of a kind hold together is what the one frame of that kind holds. -/
theorem Holds.flatMap_eq {α : Type} {entries : Section → List α} {id : UInt8} {F G : Format α}
    {ss : List Section} {frames : List Standard.Frame} {xs : List α}
    (h : Holds options id F entries) (hagree : F.Agree G) (hid : id ≠ 0)
    (hread : List.Forall₂ (ReadFrom options) ss frames) (ordered : Standard.Ordered frames)
    (hentries : Standard.Entries frames id G xs) : ss.flatMap entries = xs := by
  induction hread generalizing xs with
  | nil =>
    cases hentries with
    | missing => rfl
    | found mem => cases mem
  | cons hhead htail ih =>
    obtain ⟨hs, bs, trailing, hcontent, content⟩ := hhead
    have hhead := h bs _ content
    rw [List.flatMap_cons]
    -- the first frame is the one of the kind, and then there is none behind it, or it is another
    rcases hentries.cons_cases ordered hid with ⟨hf, hvector, hnone⟩ | ⟨hf, hsome⟩
    · rw [if_pos (hs.trans hf)] at hhead
      rw [hcontent] at hvector
      obtain ⟨hsame, -⟩ := hagree.counted hhead hvector (List.append_nil _).symm
      rw [hsame, ih ordered.tail hnone, List.append_nil]
    · rw [if_neg (hs ▸ hf)] at hhead
      rw [hhead, ih ordered.tail hsome, List.nil_append]

end Section

theorem Module.Written.parts_eq {options : DecodeOptions} {data : List UInt8} {m : Module}
    {M : Standard.Module} (h : Written options data m) (h' : Standard.Module.Written data M) :
    m.types = M.types ∧ m.functions = M.functionSpace ∧ m.exports = M.exports := by
  obtain ⟨version, sections⟩ := h
  generalize hdata : FourBytes.magic.toList ++ (version.toList ++ _) = data at h'
  obtain ⟨framed, ordered, types, imports, functions, exports⟩ := h'
  obtain ⟨-, rfl⟩ := List.append_inj (List.append_cancel_left hdata) rfl
  have hread := Section.forall₂_readFrom sections framed
  have htypes := Section.holds_types.flatMap_eq Standard.agree_signature (by decide) hread ordered
    types
  have hfunctions := Section.holds_functions.flatMap_eq Standard.agree_index (by decide) hread
    ordered functions
  have hexports := Section.holds_exports.flatMap_eq Standard.agree_exported (by decide) hread
    ordered exports
  have himports := Section.holds_imports.flatMap_eq nofun (by decide) hread ordered imports
  refine ⟨htypes, ?_, hexports⟩
  rw [Standard.Module.functionSpace, ← himports, List.flatMap_eq_nil_iff.2 fun _ _ => rfl]
  exact hfunctions

theorem Module.mem_functionExports {m : Module} {e : Export} :
    e ∈ m.functionExports ↔ e ∈ m.exports ∧ e.kind = .func := by
  rw [functionExports, List.mem_filter, beq_iff_eq]

namespace Verify

variable {exported : List (String × FuncType)} {m : Module}

theorem signatureOf_eq_some_of_mem (hmap : (exported.map Prod.fst).Nodup) {name : String}
    {t : FuncType} (h : (name, t) ∈ exported) : signatureOf? exported name = some t := by
  obtain ⟨before, after, rfl⟩ := List.append_of_mem h
  rw [List.map_append, List.nodup_append] at hmap
  refine List.lookup_eq_some_iff.2 ⟨before, after, rfl, fun entry hentry => bne_iff_ne.2 ?_⟩
  exact (hmap.2.2 _ (List.mem_map_of_mem hentry) name List.mem_cons_self).symm

theorem same_of_parts_eq {M : Standard.Module} (fits : M.Fits)
    (hmap : (exported.map Prod.fst).Nodup)
    (hexported : ∀ name t, (name, t) ∈ exported ↔ M.Exports name t) (htypes : m.types = M.types)
    (hfunctions : m.functions = M.functionSpace) (hexports : m.exports = M.exports) :
    Same exported m := by
  have hconfirmed (e : Export) (he : e ∈ m.functionExports) : Confirmed exported m e := by
    rw [Module.mem_functionExports, hexports] at he
    obtain ⟨he, hkind⟩ := he
    obtain ⟨type, t, hfunction, htype⟩ := fits.signature he hkind
    have hknown := (hexported e.name t).2 ⟨e, he, hkind, rfl, type, hfunction, htype⟩
    refine ⟨t, type, t, signatureOf_eq_some_of_mem hmap hknown, ?_, ?_, rfl, rfl⟩
    · rw [hfunctions, hfunction]
    · rw [htypes, htype]
  refine ⟨fun name => ⟨fun h => ?_, fun h => ?_⟩, hconfirmed⟩
  · obtain ⟨e, he, rfl⟩ := List.mem_map.1 h
    obtain ⟨compiled, _, _, hknown, _⟩ := hconfirmed e he
    exact mem_of_signatureOf hknown
  · obtain ⟨⟨name, t⟩, hknown, rfl⟩ := List.mem_map.1 h
    obtain ⟨e, he, hkind, hname, _⟩ := (hexported name t).1 hknown
    exact List.mem_map.2 ⟨e, Module.mem_functionExports.2 ⟨hexports ▸ he, hkind⟩, hname⟩

end Verify

namespace Engine

/-- An engine that accepts valid modules only, and reports the functions that they export, never
raises a false alarm: what it accepts passes verification with the module decoded from it. -/
theorem verify_decoded {engine : Engine} {options : DecodeOptions} {data : List UInt8} {m : Module}
    (hstandard : ∀ exported, engine.exports? data = some exported → Standard.Reports data exported)
    (haccepted : (engine.exports? data).isSome = true)
    (hdecoded : Module.decode options data = .ok m) :
    (engine.verify data (some m)).outcome.1 = .ok () := by
  obtain ⟨exported, hdata⟩ := Option.isSome_iff_exists.1 haccepted
  obtain ⟨M, hwritten, fits, hmap, hexported⟩ := hstandard exported hdata
  obtain ⟨htypes, hfunctions, hexports⟩ := (Module.decode_eq_ok_iff.1 hdecoded).parts_eq hwritten
  have hsame := Verify.same_of_parts_eq fits hmap hexported htypes hfunctions hexports
  have hnames : (m.functionExports.map (·.name)).Nodup := by
    rw [Module.functionExports, hexports]
    exact (List.filter_sublist.map _).nodup fits.distinct
  exact (verify_eq_ok_iff_confirmed hdata).2 ((Verify.same_iff hmap hnames).1 hsame)

/-- A function whose type index is written in more groups than it needs. -/
theorem verify_decoded_padded :
    let data : List UInt8 := [0x00, 0x61, 0x73, 0x6D, 1, 0, 0, 0,
      0x01, 0x05, 0x01, 0x60, 0x01, 0x7F, 0x00, 0x03, 0x03, 0x01, 0x80, 0x00,
      0x07, 0x05, 0x01, 0x01, 0x66, 0x00, 0x00, 0x0A, 0x04, 0x01, 0x02, 0x00, 0x0B]
    let m : Module := ⟨.magic, .version1, [.types [⟨[.i32], []⟩], .functions [0],
      .exports [⟨"f", .func, 0⟩], .code [⟨2, [], .close .close⟩]]⟩
    let exported : List (String × FuncType) := [("f", ⟨[.i32], []⟩)]
    reference.exports? data = some exported ∧ Standard.Reports data exported ∧
      Module.decode {} data = .ok m ∧ (reference.verify data (some m)).outcome.1 = .ok () := by
  intro data m exported
  have hdata : reference.exports? data = some exported := by decide +kernel
  have hdecoded : Module.decode {} data = .ok m := by decide +kernel
  have hreports : Standard.Reports data exported := by
    let types : Standard.Frame := ⟨1, [0x01, 0x60, 0x01, 0x7F, 0x00]⟩
    let functions : Standard.Frame := ⟨3, [0x01, 0x80, 0x00]⟩
    let exports : Standard.Frame := ⟨7, [0x01, 0x01, 0x66, 0x00, 0x00]⟩
    let code : Standard.Frame := ⟨10, [0x01, 0x02, 0x00, 0x0B]⟩
    have hbyte (b : UInt8) (h : b.toNat < 128) := Standard.index_byte h
    have hframe (f : Standard.Frame) (b : UInt8) (h : b.toNat < 128)
        (hlength : b.toNat = f.content.length) :
        Standard.Frame.Written (f.id :: ([b] ++ f.content)) f := .mk (hbyte b h) hlength
    have hframed : Format.Many Standard.Frame.Written (data.drop 8)
        [types, functions, exports, code] :=
      .cons (hframe types 5 (by decide) rfl) <| .cons (hframe functions 3 (by decide) rfl) <|
        .cons (hframe exports 5 (by decide) rfl) <| .cons (hframe code 4 (by decide) rfl) .nil
    have hparams : Standard.Vector Standard.ValueType ([1] ++ ([0x7F] ++ [])) [.i32] :=
      .mk (hbyte 1 (by decide)) rfl (.cons (.mk (by decide)) .nil)
    have hresults : Standard.Vector Standard.ValueType ([0] ++ []) [] :=
      .mk (hbyte 0 (by decide)) rfl .nil
    have hsignature : Standard.Signature (0x60 :: ([1, 0x7F] ++ [0])) ⟨[.i32], []⟩ :=
      .mk hparams hresults
    have htypes : Standard.Vector Standard.Signature types.content [⟨[.i32], []⟩] :=
      .mk (hbyte 1 (by decide)) rfl (.cons hsignature .nil)
    have hindex : Standard.Index [0x80, 0] 0 :=
      ⟨.more (by decide) (.last (by decide)), by decide, by decide⟩
    have hfunctions : Standard.Vector Standard.Index functions.content [0] :=
      .mk (hbyte 1 (by decide)) rfl (.cons hindex .nil)
    have hname : Standard.Name ([1] ++ "f".toByteArray.data.toList) "f" :=
      .mk (hbyte 1 (by decide)) (by decide +kernel)
    have hexport : Standard.Exported [1, 0x66, 0, 0] ⟨"f", .func, 0⟩ :=
      Standard.Exported.mk (e := ⟨"f", .func, 0⟩) hname (by decide) (hbyte 0 (by decide))
    have hexports : Standard.Vector Standard.Exported exports.content [⟨"f", .func, 0⟩] :=
      .mk (hbyte 1 (by decide)) rfl (.cons hexport .nil)
    refine ⟨⟨_, [], _, _⟩, .mk hframed (by decide) (.found (by simp) rfl htypes)
      (.missing (by decide)) (.found (by simp) rfl hfunctions) (.found (by simp) rfl hexports),
      ⟨?_, by decide, by decide⟩, by decide, fun name t => ⟨fun h => ?_, fun h => ?_⟩⟩
    · exact List.forall_mem_singleton.2 (Nat.zero_lt_one)
    · cases List.mem_singleton.1 h
      exact ⟨_, List.mem_singleton_self _, rfl, rfl, 0, rfl, rfl⟩
    · obtain ⟨e, he, -, rfl, type, hfunction, htype⟩ := h
      cases List.mem_singleton.1 he
      cases hfunction
      cases htype
      exact List.mem_singleton_self _
  have hstandard : ∀ exported, reference.exports? data = some exported →
      Standard.Reports data exported :=
    fun _ h => Option.some.inj (hdata.symm.trans h) ▸ hreports
  exact ⟨hdata, hreports, hdecoded, verify_decoded hstandard (by rw [hdata]; rfl) hdecoded⟩

end Engine

end WasmScope

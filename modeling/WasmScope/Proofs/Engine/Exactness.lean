import WasmScope.Proofs.Engine.Verify

namespace WasmScope

namespace Verify

/-- The engine confirms a function export: it exports the name, the indices of the module lead to a
signature, and that is the signature of the engine, parameter by parameter and result by result. -/
def Confirmed (exported : List (String × FuncType)) (m : Module) (e : Export) : Prop :=
  ∃ compiled type decoded, signatureOf? exported e.name = some compiled ∧
    m.functions[e.index.toNat]? = some type ∧ m.types[type.toNat]? = some decoded ∧
    decoded.params = compiled.params ∧ decoded.results = compiled.results

/-- What is wrong with a function export that the engine does not confirm, and the kind of failure
that it is. A missing name comes before the indices, and those before the signature. -/
inductive Fault (exported : List (String × FuncType)) (m : Module) (e : Export) :
    VerifyFailure → Kind → Prop
  | name (missing : e.name ∉ exported.map Prod.fst) :
      Fault exported m e (.notExported e.name) .notFound
  | functionIndex (known : e.name ∈ exported.map Prod.fst)
      (past : m.functions.length ≤ e.index.toNat) :
      Fault exported m e (.functionIndex e.name e.index m.functions.length) .outOfBounds
  | typeIndex {type : UInt32} (known : e.name ∈ exported.map Prod.fst)
      (function : m.functions[e.index.toNat]? = some type) (past : m.types.length ≤ type.toNat) :
      Fault exported m e (.typeIndex e.name type m.types.length) .outOfBounds
  | signature {type : UInt32} {decoded compiled : FuncType}
      (known : signatureOf? exported e.name = some compiled)
      (function : m.functions[e.index.toNat]? = some type)
      (entry : m.types[type.toNat]? = some decoded)
      (differ : ¬ (decoded.params = compiled.params ∧ decoded.results = compiled.results)) :
      Fault exported m e (.signature e.name decoded compiled) .mismatch

/-- The function exports of the module are the exports of the engine: the same names, each
confirmed. -/
structure Same (exported : List (String × FuncType)) (m : Module) : Prop where
  names : ∀ name, name ∈ m.functionExports.map (·.name) ↔ name ∈ exported.map Prod.fst
  confirmed : ∀ e ∈ m.functionExports, Confirmed exported m e

/-- What sets the module apart from the engine: its first function export that is not confirmed or,
where all of them are, the number of exports. -/
inductive Difference (exported : List (String × FuncType)) (m : Module) :
    VerifyFailure → Kind → Prop
  | export {before after : List Export} {e : Export} {f : VerifyFailure} {kind : Kind}
      (position : m.functionExports = before ++ e :: after)
      (earlier : ∀ e' ∈ before, Confirmed exported m e') (fault : Fault exported m e f kind) :
      Difference exported m f kind
  | count (all : ∀ e ∈ m.functionExports, Confirmed exported m e)
      (differ : m.functionExports.length ≠ exported.length) :
      Difference exported m (.exportCount m.functionExports.length exported.length) .mismatch

variable {exported : List (String × FuncType)} {m : Module} {e : Export}

theorem signatureOf_eq_none_iff {name : String} :
    signatureOf? exported name = none ↔ name ∉ exported.map Prod.fst := by
  rw [signatureOf?, List.lookup_eq_none_iff, List.mem_map]
  constructor
  · intro h hname
    obtain ⟨entry, hentry, rfl⟩ := hname
    exact bne_iff_ne.1 (h entry hentry) rfl
  · intro h entry hentry
    exact bne_iff_ne.2 fun hname => h ⟨entry, hentry, hname.symm⟩

theorem confirmed_iff : Confirmed exported m e ↔ ∃ t, checkExport exported m e = .ok t := by
  constructor
  · intro h
    obtain ⟨compiled, type, decoded, hname, hfunction, htype, hparams, hresults⟩ := h
    obtain rfl : decoded = compiled := by
      cases decoded
      cases compiled
      exact congrArg₂ FuncType.mk hparams hresults
    exact ⟨decoded, checkExport_eq_ok_iff.2 ⟨hname, type, hfunction, htype⟩⟩
  · intro h
    obtain ⟨t, ht⟩ := h
    obtain ⟨hname, type, hfunction, htype⟩ := checkExport_eq_ok_iff.1 ht
    exact ⟨t, type, t, hname, hfunction, htype, rfl, rfl⟩

theorem fault_of_checkExport {f : VerifyFailure} (h : checkExport exported m e = .error f) :
    Fault exported m e f f.report.kind := by
  unfold checkExport at h
  split at h
  · next hname =>
    cases h
    exact .name (signatureOf_eq_none_iff.1 hname)
  · next compiled hname =>
    have hknown := mem_of_signatureOf hname
    split at h
    · next hfunction =>
      cases h
      exact .functionIndex hknown (List.getElem?_eq_none_iff.1 hfunction)
    · next type hfunction =>
      split at h
      · next htype =>
        cases h
        exact .typeIndex hknown hfunction (List.getElem?_eq_none_iff.1 htype)
      · next decoded htype =>
        split at h
        · cases h
        · next hdiffer =>
          cases h
          refine .signature hname hfunction htype fun hsame => hdiffer ?_
          cases decoded
          cases compiled
          exact congrArg₂ FuncType.mk hsame.1 hsame.2

theorem answer_eq_error {es : List Export} {f : VerifyFailure}
    (h : answer exported m es = .error f) : ∃ before e after, es = before ++ e :: after ∧
      (∀ e' ∈ before, Confirmed exported m e') ∧ Fault exported m e f f.report.kind := by
  induction es with
  | nil => cases h
  | cons e rest ih =>
    rw [answer, except_bind_eq_error] at h
    rcases h with hfault | ⟨t, ht, hrest⟩
    · exact ⟨[], e, rest, rfl, List.forall_mem_nil _, fault_of_checkExport hfault⟩
    · obtain ⟨before, e', after, rfl, hearlier, hfault⟩ := ih hrest
      refine ⟨e :: before, e', after, rfl, ?_, hfault⟩
      exact List.forall_mem_cons.2 ⟨confirmed_iff.2 ⟨t, ht⟩, hearlier⟩

/-- Lists without repetitions that are confirmed name by name have the same names as soon as they
have the same length. -/
theorem same_iff (hmap : (exported.map Prod.fst).Nodup)
    (hnames : (m.functionExports.map (·.name)).Nodup) :
    Same exported m ↔ (∀ e ∈ m.functionExports, Confirmed exported m e) ∧
      m.functionExports.length = exported.length := by
  have hlengths : (m.functionExports.map (·.name)).length = (exported.map Prod.fst).length ↔
      m.functionExports.length = exported.length := by
    rw [List.length_map, List.length_map]
  constructor
  · intro h
    have hperm := (List.perm_ext_iff_of_nodup hnames hmap).2 h.names
    exact ⟨h.confirmed, hlengths.1 hperm.length_eq⟩
  · intro h
    obtain ⟨hall, hlength⟩ := h
    have hsub : m.functionExports.map (·.name) ⊆ exported.map Prod.fst := by
      intro name hname
      obtain ⟨e, he, rfl⟩ := List.mem_map.1 hname
      obtain ⟨compiled, _, _, hknown, _⟩ := hall e he
      exact mem_of_signatureOf hknown
    have hperm := (List.subperm_of_subset hnames hsub).perm_of_length_le
      (Nat.le_of_eq (hlengths.2 hlength).symm)
    exact ⟨fun _ => hperm.mem_iff, hall⟩

end Verify

namespace Engine

variable {engine : Engine} {data : List UInt8} {m : Module} {exported : List (String × FuncType)}

theorem verify_eq_ok_iff_confirmed (hdata : engine.exports? data = some exported) :
    (engine.verify data (some m)).outcome.1 = .ok () ↔
      (∀ e ∈ m.functionExports, Verify.Confirmed exported m e) ∧
        m.functionExports.length = exported.length := by
  simp only [verify_eq_ok_iff hdata, Verify.confirmed_iff]

theorem difference_of_verify {f : VerifyFailure} (hdata : engine.exports? data = some exported)
    (h : (engine.verify data (some m)).outcome.1 = .error f) :
    Verify.Difference exported m f f.report.kind := by
  rw [verify_eq_answer, answer, hdata] at h
  rcases except_bind_eq_error.1 h with hfault | ⟨_, hall, hcount⟩
  · obtain ⟨before, e, after, hposition, hearlier, hfault⟩ := Verify.answer_eq_error hfault
    exact .export hposition hearlier hfault
  · split at hcount
    · cases hcount
    · next hlength =>
      cases hcount
      refine .count (fun e he => ?_) hlength
      exact Verify.confirmed_iff.2 (Verify.answer_eq_ok_iff.1 hall e he)

/-- A module that exports no function name twice passes verification exactly if the engine accepts
the bytes and exports the same functions: the same names, with indices that lead to the same
signatures. Where an engine that accepts the bytes exports other functions, the failure is that of
the first function export that it does not confirm, or the one about their number. -/
theorem verify_exact
    (hmap : ∀ exported, engine.exports? data = some exported → (exported.map Prod.fst).Nodup)
    (hnames : (m.functionExports.map (·.name)).Nodup) :
    ((engine.verify data (some m)).outcome.1 = .ok () ↔
      ∃ exported, engine.exports? data = some exported ∧ Verify.Same exported m) ∧
    ∀ exported, engine.exports? data = some exported → ¬ Verify.Same exported m →
      ∃ f, (engine.verify data (some m)).outcome.1 = .error f ∧
        Verify.Difference exported m f f.report.kind := by
  have hiff {exported : List (String × FuncType)} (hdata : engine.exports? data = some exported) :
      (engine.verify data (some m)).outcome.1 = .ok () ↔ Verify.Same exported m := by
    rw [verify_eq_ok_iff_confirmed hdata, Verify.same_iff (hmap exported hdata) hnames]
  refine ⟨⟨fun h => ?_, fun h => ?_⟩, fun exported hdata hdiffer => ?_⟩
  · cases hdata : engine.exports? data with
    | none =>
      rw [verify_eq_answer, answer, hdata] at h
      cases h
    | some exported => exact ⟨exported, rfl, (hiff hdata).1 h⟩
  · obtain ⟨exported, hdata, hsame⟩ := h
    exact (hiff hdata).2 hsame
  · cases hresult : (engine.verify data (some m)).outcome.1 with
    | ok _ => exact absurd ((hiff hdata).1 hresult) hdiffer
    | error f => exact ⟨f, rfl, difference_of_verify hdata hresult⟩

/-- Two functions whose types, indices and exports are scattered over sections out of order, between
them an export of a memory: they pass, and with the type of the first for both they do not. -/
theorem verify_exact_scattered :
    let data : List UInt8 := [0x00, 0x61, 0x73, 0x6D, 1, 0, 0, 0,
      0x01, 0x08, 0x02, 0x60, 0x00, 0x00, 0x60, 0x01, 0x7F, 0x00, 0x03, 0x03, 0x02, 0x00, 0x01,
      0x07, 0x09, 0x02, 0x01, 0x66, 0x00, 0x00, 0x01, 0x67, 0x00, 0x01,
      0x0A, 0x07, 0x02, 0x02, 0x00, 0x0B, 0x02, 0x00, 0x0B]
    let m (type : UInt32) : Module := ⟨.magic, .version1,
      [.exports [⟨"g", .func, 1⟩, ⟨"m", .memory, 0⟩], .functions [0], .types [⟨[], []⟩],
        .exports [⟨"f", .func, 0⟩], .functions [type], .types [⟨[.i32], []⟩]]⟩
    let exported : List (String × FuncType) := [("f", ⟨[], []⟩), ("g", ⟨[.i32], []⟩)]
    reference.exports? data = some exported ∧ (exported.map Prod.fst).Nodup ∧
      (∀ type, ((m type).functionExports.map (·.name)).Nodup) ∧ Verify.Same exported (m 1) ∧
      ∃ f, (reference.verify data (some (m 0))).outcome.1 = .error f ∧
        Verify.Difference exported (m 0) f f.report.kind := by
  intro data m exported
  have hdata : reference.exports? data = some exported := by decide +kernel
  have hmap : (exported.map Prod.fst).Nodup := by decide
  have hmaps : ∀ exported, reference.exports? data = some exported →
      (exported.map Prod.fst).Nodup :=
    fun _ h => Option.some.inj (hdata.symm.trans h) ▸ hmap
  have hnames (type : UInt32) : ((m type).functionExports.map (·.name)).Nodup := by
    show ["g", "f"].Nodup
    decide
  have hexact (type : UInt32) := verify_exact hmaps (hnames type)
  have hpassed : (reference.verify data (some (m 1))).outcome.1 = .ok () := by decide +kernel
  have hfailed : (reference.verify data (some (m 0))).outcome.1 ≠ .ok () := by decide +kernel
  obtain ⟨_, hdata', hsame⟩ := (hexact 1).1.1 hpassed
  obtain rfl := Option.some.inj (hdata.symm.trans hdata')
  refine ⟨hdata, hmap, hnames, hsame, (hexact 0).2 exported hdata fun h => hfailed ?_⟩
  exact (hexact 0).1.2 ⟨exported, hdata, h⟩

end Engine

end WasmScope

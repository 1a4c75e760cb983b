import Mathlib.Data.List.Perm.Subperm
import WasmScope.Engine.Reference
import WasmScope.Engine.Verify
import WasmScope.Proofs.Decode.Outcome

namespace WasmScope

namespace Verify

variable {exported : List (String × FuncType)} {m : Module}

theorem mem_of_signatureOf {name : String} {t : FuncType}
    (h : signatureOf? exported name = some t) : name ∈ exported.map Prod.fst := by
  induction exported with
  | nil => cases h
  | cons entry rest ih =>
    by_cases he : name = entry.1
    · exact List.mem_cons.2 (.inl he)
    · rw [signatureOf?, List.lookup_cons, beq_false_of_ne he] at h
      exact List.mem_cons_of_mem _ (ih h)

theorem checkExport_eq_ok_iff {e : Export} {t : FuncType} :
    checkExport exported m e = .ok t ↔ signatureOf? exported e.name = some t ∧
      ∃ type, m.functions[e.index.toNat]? = some type ∧ m.types[type.toNat]? = some t := by
  unfold checkExport
  constructor
  · intro h
    split at h
    · cases h
    · next compiled hcompiled =>
      split at h
      · cases h
      · next type htype =>
        split at h
        · cases h
        · next decoded hdecoded =>
          split at h
          · next heq =>
            cases h
            exact ⟨heq ▸ hcompiled, type, htype, hdecoded⟩
          · cases h
  · intro h
    obtain ⟨hcompiled, type, htype, hdecoded⟩ := h
    simp [hcompiled, htype, hdecoded]

def answer (exported : List (String × FuncType)) (m : Module) :
    List Export → Except VerifyFailure Unit
  | [] => .ok ()
  | e :: rest => (checkExport exported m e).bind fun _ => answer exported m rest

theorem gives_checkExports (exported : List (String × FuncType)) (m : Module) (es : List Export) :
    Logged.Gives (checkExports exported m es) (answer exported m es) := by
  induction es with
  | nil => exact Logged.gives_pure ()
  | cons e rest ih =>
    rw [checkExports, answer]
    cases checkExport exported m e with
    | error f => exact Logged.gives_throw f
    | ok type => exact ih.note_bind _

theorem answer_eq_ok_iff {es : List Export} :
    answer exported m es = .ok () ↔ ∀ e ∈ es, ∃ t, checkExport exported m e = .ok t := by
  induction es with
  | nil => exact iff_of_true rfl nofun
  | cons e rest ih =>
    rw [answer, except_bind_eq_ok, List.forall_mem_cons, ih, exists_and_right]

end Verify

namespace Engine

variable {engine : Engine} {data : List UInt8} {m : Module} {exported : List (String × FuncType)}

def answer (engine : Engine) (data : List UInt8) (m : Module) : Except VerifyFailure Unit :=
  match engine.exports? data with
  | none => .error .rejected
  | some exported =>
    (Verify.answer exported m m.functionExports).bind fun _ =>
      if m.functionExports.length = exported.length then .ok ()
      else .error (.exportCount m.functionExports.length exported.length)

theorem verify_eq_answer (engine : Engine) (data : List UInt8) (m : Module) :
    (engine.verify data (some m)).outcome.1 = engine.answer data m := by
  suffices h : Logged.Gives (engine.verify data (some m)) (engine.answer data m) from h #[]
  unfold verify answer
  dsimp only
  cases engine.exports? data with
  | none => exact Logged.gives_throw _
  | some exported =>
    refine (Verify.gives_checkExports exported m m.functionExports).bind fun _ => ?_
    split
    · exact Logged.gives_note _
    · exact Logged.gives_throw _

theorem verify_eq_ok_iff (hdata : engine.exports? data = some exported) :
    (engine.verify data (some m)).outcome.1 = .ok () ↔
      (∀ e ∈ m.functionExports, ∃ t, Verify.checkExport exported m e = .ok t) ∧
        m.functionExports.length = exported.length := by
  rw [verify_eq_answer, answer, hdata]
  dsimp only
  rw [except_bind_eq_ok, ← Verify.answer_eq_ok_iff]
  constructor
  · intro h
    obtain ⟨_, hall, hcount⟩ := h
    split at hcount
    · next hlength => exact ⟨hall, hlength⟩
    · cases hcount
  · intro h
    obtain ⟨hall, hlength⟩ := h
    exact ⟨(), hall, if_pos hlength⟩

/-- Where verification passes, the engine exports each function that the module exports, and as many
functions as the module has function exports. The names are then the same on both sides exactly if
the module exports no name twice: a name that it repeats stands in for one that it lacks. -/
theorem verify_ok_names (hdata : engine.exports? data = some exported)
    (hmap : (exported.map Prod.fst).Nodup)
    (h : (engine.verify data (some m)).outcome.1 = .ok ()) :
    m.functionExports.map (·.name) ⊆ exported.map Prod.fst ∧
      m.functionExports.length = exported.length ∧
      ((∀ name, name ∈ m.functionExports.map (·.name) ↔ name ∈ exported.map Prod.fst) ↔
        (m.functionExports.map (·.name)).Nodup) := by
  obtain ⟨hall, hlength⟩ := (verify_eq_ok_iff hdata).1 h
  have hsub : m.functionExports.map (·.name) ⊆ exported.map Prod.fst := by
    intro name hname
    obtain ⟨e, he, rfl⟩ := List.mem_map.1 hname
    obtain ⟨t, ht⟩ := hall e he
    exact Verify.mem_of_signatureOf (Verify.checkExport_eq_ok_iff.1 ht).1
  have hcount : (m.functionExports.map (·.name)).length = (exported.map Prod.fst).length := by
    rw [List.length_map, List.length_map, hlength]
  refine ⟨hsub, hlength, fun hsame => ?_, fun hnodup name => ?_⟩
  · -- all names of the engine are among those of the module, which has no room for repetitions
    have hback : exported.map Prod.fst ⊆ m.functionExports.map (·.name) :=
      fun name hname => (hsame name).2 hname
    have hperm := (List.subperm_of_subset hmap hback).perm_of_length_le (Nat.le_of_eq hcount)
    exact hperm.nodup_iff.1 hmap
  · have hperm := (List.subperm_of_subset hnodup hsub).perm_of_length_le (Nat.le_of_eq hcount.symm)
    exact hperm.mem_iff

/-- Two export sections that name one function alike, against an engine that exports it by two
names: verification passes, and the second name is nowhere in the module. -/
theorem verify_ok_names_repeated :
    let data : List UInt8 := [0x00, 0x61, 0x73, 0x6D, 1, 0, 0, 0,
      0x01, 0x04, 0x01, 0x60, 0x00, 0x00, 0x03, 0x02, 0x01, 0x00,
      0x07, 0x09, 0x02, 0x01, 0x66, 0x00, 0x00, 0x01, 0x67, 0x00, 0x00,
      0x0A, 0x04, 0x01, 0x02, 0x00, 0x0B]
    let m : Module := ⟨.magic, .version1, [.types [⟨[], []⟩], .functions [0],
      .exports [⟨"f", .func, 0⟩], .exports [⟨"f", .func, 0⟩], .code [⟨2, [], .close .close⟩]]⟩
    let exported : List (String × FuncType) := [("f", ⟨[], []⟩), ("g", ⟨[], []⟩)]
    reference.exports? data = some exported ∧ (exported.map Prod.fst).Nodup ∧
      (reference.verify data (some m)).outcome.1 = .ok () ∧
      ¬ ∀ name, name ∈ m.functionExports.map (·.name) ↔ name ∈ exported.map Prod.fst := by
  intro data m exported
  have hdata : reference.exports? data = some exported := by decide +kernel
  have hmap : (exported.map Prod.fst).Nodup := by decide
  have h : (reference.verify data (some m)).outcome.1 = .ok () := by decide +kernel
  have hrepeated : ¬ (m.functionExports.map (·.name)).Nodup := by decide
  exact ⟨hdata, hmap, h, fun hsame => hrepeated ((verify_ok_names hdata hmap h).2.2.1 hsame)⟩

end Engine

end WasmScope

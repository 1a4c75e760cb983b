import WasmScope.Failure.Chain

namespace WasmScope

namespace Failure

variable {f : Failure}

theorem sizeOf_unwrap_lt {g : Failure} (h : f.unwrap = some g) : sizeOf g < sizeOf f := by
  cases f with
  | plain text => cases h
  | context label inner =>
    cases h
    simp only [context.sizeOf_spec]
    omega
  | report info => cases h
  | caused info cause =>
    cases h
    simp only [caused.sizeOf_spec]
    omega

def chain (f : Failure) : List Failure :=
  match h : f.unwrap with
  | none => [f]
  | some g =>
    have := sizeOf_unwrap_lt h
    f :: g.chain
termination_by sizeOf f

def reports (f : Failure) : List Report := f.chain.filterMap info?

theorem chain_plain (text : String) : (plain text).chain = [plain text] := by
  rw [chain]
  rfl

theorem chain_context (label : String) (inner : Failure) :
    (context label inner).chain = context label inner :: inner.chain := by
  rw [chain]
  rfl

theorem chain_report (info : Report) : (report info).chain = [report info] := by
  rw [chain]
  rfl

theorem chain_caused (info : Report) (cause : Failure) :
    (caused info cause).chain = caused info cause :: cause.chain := by
  rw [chain]
  rfl

theorem any_eq (test : Failure → Bool) (f : Failure) : f.any test = f.chain.any test := by
  induction f with
  | plain text => simp [any, chain_plain]
  | context label inner ih => rw [any, ih, chain_context, List.any_cons]
  | report info => simp [any, chain_report]
  | caused info cause ih => rw [any, ih, chain_caused, List.any_cons]

/-- Contexts hold no report, so the reports are the first one and those of its cause. -/
theorem reports_eq (f : Failure) :
    f.reports = f.firstWithCause?.elim [] fun (info, cause) => info :: cause.elim [] reports := by
  induction f with
  | plain text => rw [reports, chain_plain]; rfl
  | context label inner ih => rw [reports, chain_context]; exact ih
  | report info => rw [reports, chain_report]; rfl
  | caused info cause ih => rw [reports, chain_caused]; rfl

theorem isKind_eq (kind : Kind) (f : Failure) :
    f.isKind kind = f.reports.any (·.kind == kind) := by
  fun_induction isKind kind f with
  | case1 f h => rw [reports_eq, h]; rfl
  | case2 f info h => rw [reports_eq, h]; simp
  | case3 f info cause h _ ih => rw [reports_eq, h, ih]; rfl

theorem matchesTarget_eq (target : Report) (f : Failure) :
    f.matchesTarget (.report target) = f.reports.any target.answers := by
  rw [matchesTarget, info?]
  dsimp only
  rw [any_eq, reports, List.any_filterMap]
  congr 1
  funext g
  cases g.info? <;> rfl

theorem kindOf_eq (f : Failure) :
    f.kindOf = (f.reports.head?.map Report.kind).getD .unspecified := by
  rw [kindOf, firstReport?, reports_eq]
  cases f.firstWithCause? <;> rfl

end Failure

theorem Report.answers_iff {target info : Report} : target.answers info = true ↔
    (target.phase = .unspecified ∨ target.phase = info.phase) ∧ info.kind = target.kind := by
  simp [answers]

namespace Failure

/-- A failure that may be absent: then it has no reports, and every search of it comes to nothing.
Otherwise the search for a kind succeeds where a report has the kind, as does the search for a target
without a phase; the search for a target with a phase succeeds where one report has both; and the
kind of the whole is that of the first report. -/
theorem queries_agree (f? : Option Failure) (kind : Kind) :
    (f?.any (isKind kind) = true ↔ ∃ r ∈ f?.elim [] reports, r.kind = kind) ∧
      (∀ target : Report, target.phase = .unspecified → target.kind = kind →
        (f?.any (·.matchesTarget (.report target)) = true ↔ f?.any (isKind kind) = true)) ∧
      (∀ target : Report, target.phase ≠ .unspecified → target.kind = kind →
        (f?.any (·.matchesTarget (.report target)) = true ↔
          ∃ r ∈ f?.elim [] reports, r.phase = target.phase ∧ r.kind = kind)) ∧
      (f?.map kindOf).getD .unspecified =
        ((f?.elim [] reports).head?.map Report.kind).getD .unspecified := by
  have hkind : f?.any (isKind kind) = true ↔ ∃ r ∈ f?.elim [] reports, r.kind = kind := by
    cases f? with
    | none => simp
    | some f => simp [isKind_eq]
  have htarget (target : Report) : f?.any (·.matchesTarget (.report target)) = true ↔
      ∃ r ∈ f?.elim [] reports,
        (target.phase = .unspecified ∨ target.phase = r.phase) ∧ r.kind = target.kind := by
    cases f? with
    | none => simp
    | some f => simp [matchesTarget_eq, Report.answers_iff]
  refine ⟨hkind, ?_, ?_, ?_⟩
  · rintro target hphase rfl
    rw [htarget, hkind]
    simp only [hphase, true_or, true_and]
  · rintro target hphase rfl
    rw [htarget]
    simp only [hphase, false_or, eq_comm (a := target.phase)]
  · cases f? with
    | none => rfl
    | some f => exact kindOf_eq f

/-- A report in a context, caused by another one in a context: both kinds are found, but not the
phase of the one together with the kind of the other. -/
theorem queries_agree_crossed :
    let f : Failure := .context "a.wasm" (.caused { phase := .load, kind := .invalidData }
      (.context "body 0" (.report { phase := .decode, kind := .invalidOpcode })))
    (some f).any (isKind .invalidOpcode) = true ∧
      (some f).any (·.matchesTarget (.report { phase := .decode, kind := .invalidOpcode })) = true ∧
      (some f).any (·.matchesTarget (.report { phase := .load, kind := .invalidOpcode })) = false ∧
      ((some f).map kindOf).getD .unspecified = .invalidData := by
  intro f
  have hreports : f.reports = [{ phase := .load, kind := .invalidData },
      { phase := .decode, kind := .invalidOpcode }] := by
    rw [reports, chain_context, chain_caused, chain_context, chain_report]
    rfl
  obtain ⟨hkind, -, htarget, hfirst⟩ := queries_agree (some f) .invalidOpcode
  rw [Option.elim_some, hreports] at hkind htarget hfirst
  refine ⟨hkind.2 (by decide), (htarget _ (by decide) rfl).2 (by decide), ?_, hfirst⟩
  exact Bool.eq_false_iff.2 fun h => absurd ((htarget _ (by decide) rfl).1 h) (by decide)

end Failure

end WasmScope

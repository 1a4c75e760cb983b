import WasmScope.Failure.Report

namespace WasmScope

/-- A chain of causes, outermost first. -/
inductive Failure where
  | plain (text : String)
  | context (label : String) (inner : Failure)
  | report (info : Report)
  | caused (info : Report) (cause : Failure)
deriving DecidableEq, Repr

namespace Failure

def ofReport (info : Report) : Option Failure → Failure
  | none => .report info
  | some cause => .caused info cause

/-- A report that only attaches a phase, a kind and a detail to its cause. -/
def wrap (phase : Phase) (kind : Kind) (cause : Option Failure) (detail : String) : Failure :=
  ofReport { phase, kind, detail } cause

def load (detail : String) (cause : Option Failure) : Failure :=
  wrap .load .invalidData cause detail

def message : Failure → String
  | plain text => text
  | context label inner => label ++ ": " ++ inner.message
  | report info => info.text
  | caused info cause => info.text ++ " (caused by: " ++ cause.message ++ ")"

def unwrap : Failure → Option Failure
  | plain _ => none
  | context _ inner => some inner
  | report _ => none
  | caused _ cause => some cause

def info? : Failure → Option Report
  | plain _ => none
  | context _ _ => none
  | report info => some info
  | caused info _ => some info

def firstWithCause? : Failure → Option (Report × Option Failure)
  | plain _ => none
  | context _ inner => inner.firstWithCause?
  | report info => some (info, none)
  | caused info cause => some (info, some cause)

def firstReport? (f : Failure) : Option Report := f.firstWithCause?.map Prod.fst

theorem sizeOf_cause_lt {f : Failure} {info : Report} {cause : Failure}
    (h : f.firstWithCause? = some (info, some cause)) : sizeOf cause < sizeOf f := by
  induction f with
  | plain text => cases h
  | context label inner ih =>
    have hinner := ih h
    simp only [context.sizeOf_spec]
    omega
  | report info' => cases h
  | caused info' cause' ih =>
    cases h
    simp only [caused.sizeOf_spec]
    omega

/-- Some report of the chain has the given kind. Past a report of another kind the search goes on
with the cause of that report. -/
def isKind (kind : Kind) (f : Failure) : Bool :=
  match h : f.firstWithCause? with
  | none => false
  | some (info, none) => info.kind == kind
  | some (info, some cause) =>
    have := sizeOf_cause_lt h
    info.kind == kind || cause.isKind kind
termination_by sizeOf f

def kindOf (f : Failure) : Kind :=
  match f.firstReport? with
  | some info => info.kind
  | none => .unspecified

end Failure

/-- A target without a phase asks for the kind alone. -/
def Report.answers (target info : Report) : Bool :=
  (target.phase == .unspecified || target.phase == info.phase) && info.kind == target.kind

namespace Failure

def any (test : Failure → Bool) : Failure → Bool
  | plain text => test (plain text)
  | context label inner => test (context label inner) || inner.any test
  | report info => test (report info)
  | caused info cause => test (caused info cause) || cause.any test

/-- The chain holds a report that answers the target; a target that is itself no report is answered
by nothing. -/
def matchesTarget (f target : Failure) : Bool :=
  match target.info? with
  | none => false
  | some wanted => f.any fun g =>
    match g.info? with
    | none => false
    | some info => wanted.answers info

end Failure

end WasmScope

import WasmScope.Decode.Module
import WasmScope.Failure.Chain
import WasmScope.Module.Basic
import WasmScope.Module.Walk

namespace WasmScope

inductive BodyViolation where
  | localIndex (index : UInt32) (count : UInt64)
  | labelIndex (index : UInt32) (depth : Nat)
  | blockType (index : Int32) (types : Nat)
deriving DecidableEq, Repr

inductive Violation where
  | functionType (function : Nat) (type : UInt32) (types : Nat)
  | bodyCount (functions bodies : Nat)
  | duplicateExport (position : Nat) (name : String)
  | exportTarget (position : Nat) (name : String) (target : UInt32) (functions : Nat)
  | body (position : Nat) (violation : BodyViolation)
deriving DecidableEq, Repr

def BodyViolation.report : BodyViolation → Report
  | localIndex index count =>
    .outOfBounds .validate ["local"] index.toNat count.toInt64.toInt
  | labelIndex index depth => .outOfBounds .validate ["label"] index.toNat (depth + 1)
  | blockType index types => .outOfBounds .validate ["blocktype"] index.toInt types

def Violation.failure : Violation → Failure
  | functionType function type types =>
    .report (.outOfBounds .validate ["function", toString function, "type"] type.toNat types)
  | bodyCount functions bodies =>
    .report (.mismatch .validate ["code"]
      ("function section declares " ++ toString functions ++ " function(s), code section has "
        ++ toString bodies ++ " body(ies)"))
  | duplicateExport position name =>
    .report (.duplicate .validate ["export", toString position] "export name" name)
  | exportTarget position name target functions =>
    .report (.outOfBounds .validate ["export", toString position, name] target.toNat functions)
  | body position violation =>
    .context (Decode.Place.body position).label (.report violation.report)

namespace BlockType

/-- A type index past the end of the types; a negative one is let through. -/
def violation? (bt : BlockType) (types : Nat) : Option BodyViolation :=
  if bt.kind = .typeIndex ∧ (types : Int) ≤ bt.typeIndex.toInt then
    some (.blockType bt.typeIndex types)
  else none

end BlockType

/-- The violation of one instruction at a depth, given the numbers of locals and of types. The
body itself is the label after those of the structured instructions around the instruction. -/
def Instr.violation? (i : Instr) (depth : Nat) (locals : UInt64) (types : Nat) :
    Option BodyViolation :=
  match i with
  | .localVar _ index =>
    if locals ≤ index.toUInt64 then some (.localIndex index locals) else none
  | .branch _ label => if depth < label.toNat then some (.labelIndex label depth) else none
  | .block _ type _ => type.violation? types
  | .cond type _ _ => type.violation? types
  | .const _ | .numeric _ => none

/-- The violation that a walk over the body stops at. -/
def FuncBody.violation? (fb : FuncBody) (locals : UInt64) (types : Nat) : Option BodyViolation :=
  fb.body.walkWith (Expr.keepFirst fun depth i => i.violation? depth locals types) 0 none

namespace Module

def functionViolation? (types : Nat) (position : Nat) : List UInt32 → Option Violation
  | [] => none
  | type :: rest =>
    if types ≤ type.toNat then some (.functionType position type types)
    else functionViolation? types (position + 1) rest

/-- Exports from a position on, given the names before it. A name that comes again is found before
the target of its export is looked at. -/
def exportViolation? (functions : Nat) (position : Nat) (seen : List String) :
    List Export → Option Violation
  | [] => none
  | e :: rest =>
    if e.name ∈ seen then some (.duplicateExport position e.name)
    else if e.kind = .func ∧ functions ≤ e.index.toNat then
      some (.exportTarget position e.name e.index functions)
    else exportViolation? functions (position + 1) (e.name :: seen) rest

def paramCount (m : Module) (type : UInt32) : Nat :=
  match m.types[type.toNat]? with
  | some signature => signature.params.length
  | none => 0

def localCount (m : Module) (type : UInt32) (fb : FuncBody) : UInt64 :=
  (m.paramCount type).toUInt64 + fb.numLocals

def bodyViolation? (m : Module) (position : Nat) : List (UInt32 × FuncBody) → Option Violation
  | [] => none
  | (type, fb) :: rest =>
    match fb.violation? (m.localCount type fb) m.types.length with
    | some violation => some (.body position violation)
    | none => bodyViolation? m (position + 1) rest

def violation? (m : Module) : Option Violation :=
  functionViolation? m.types.length 0 m.functions
  <|> (if m.functions.length = m.bodies.length then none
    else some (.bodyCount m.functions.length m.bodies.length))
  <|> exportViolation? m.functions.length 0 [] m.exports
  <|> bodyViolation? m 0 (m.functions.zip m.bodies)

def validate (m : Module) : Except Failure Unit :=
  match m.violation? with
  | none => .ok ()
  | some violation => .error violation.failure

def decodeValid (options : DecodeOptions) (data : List UInt8) : Except Failure Module :=
  match decode options data with
  | .error f => .error f.failure
  | .ok m => m.validate.map fun _ => m

end Module

end WasmScope

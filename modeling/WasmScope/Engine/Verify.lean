import WasmScope.Decode.Log
import WasmScope.Engine.Basic
import WasmScope.Failure.Chain
import WasmScope.Text.Quoted

namespace WasmScope

inductive VerifyFailure where
  | noModule
  | rejected
  | notExported (name : String)
  | functionIndex (name : String) (index : UInt32) (functions : Nat)
  | typeIndex (name : String) (index : UInt32) (types : Nat)
  | signature (name : String) (decoded compiled : FuncType)
  | exportCount (decoded compiled : Nat)
deriving DecidableEq, Repr

/-- The name of a type as the engine prints it, which has none for function references. -/
def engineTypeName (t : ValType) : String := if t = .funcref then "unknown" else t.name

def engineTypeList (types : List ValType) : String :=
  "[" ++ " ".intercalate (types.map engineTypeName) ++ "]"

def VerifyFailure.report : VerifyFailure → Report
  | noModule => .invalidInput .verify "nil module"
  | rejected =>
    { phase := .verify, kind := .invalidData, detail := "wazero rejected module" }
  | notExported name =>
    { phase := .verify, kind := .notFound, path := ["export", name],
      detail := "function export " ++ Text.quoted name ++ " not exported by wazero" }
  | functionIndex name index functions =>
    .outOfBounds .verify ["export", name] index.toNat functions
  | typeIndex name index types => .outOfBounds .verify ["export", name, "type"] index.toNat types
  | signature name decoded compiled =>
    .mismatch .verify ["export", name]
      ("decoded " ++ decoded.text ++ ", wazero " ++ engineTypeList compiled.params ++ " -> "
        ++ engineTypeList compiled.results)
  | exportCount decoded compiled =>
    .mismatch .verify ["export"]
      ("decoded " ++ toString decoded ++ " function export(s), wazero " ++ toString compiled)

namespace Verify

def checkExport (exported : List (String × FuncType)) (m : Module) (e : Export) :
    Except VerifyFailure FuncType :=
  match signatureOf? exported e.name with
  | none => .error (.notExported e.name)
  | some compiled =>
    match m.functions[e.index.toNat]? with
    | none => .error (.functionIndex e.name e.index m.functions.length)
    | some type =>
      match m.types[type.toNat]? with
      | none => .error (.typeIndex e.name type m.types.length)
      | some decoded =>
        if decoded = compiled then .ok decoded else .error (.signature e.name decoded compiled)

def checkExports (exported : List (String × FuncType)) (m : Module) :
    List Export → Logged VerifyFailure Unit
  | [] => pure ()
  | e :: rest =>
    match checkExport exported m e with
    | .error f => throw f
    | .ok type => do
      Logged.note [.exportVerified e.name e.index type]
      checkExports exported m rest

end Verify

def Module.functionExports (m : Module) : List Export := m.exports.filter fun e => e.kind == .func

def Engine.verify (engine : Engine) (data : List UInt8) (m : Option Module) :
    Logged VerifyFailure Unit :=
  match m with
  | none => throw .noModule
  | some m =>
    match engine.exports? data with
    | none => throw .rejected
    | some exported => do
      Verify.checkExports exported m m.functionExports
      if m.functionExports.length = exported.length then
        Logged.note [.moduleVerified exported.length]
      else throw (.exportCount m.functionExports.length exported.length)

end WasmScope

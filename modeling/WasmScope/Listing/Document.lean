import WasmScope.Listing.Sink
import WasmScope.Listing.Text
import WasmScope.Text.Lines
import WasmScope.Yaml.Node

namespace WasmScope

structure BodyDocument where
  size : Nat
  locals : List String
  code : List String
deriving DecidableEq, Repr

structure SectionDocument where
  id : SectionId
  types : List String := []
  functions : List Nat := []
  exports : List Export := []
  bodies : List BodyDocument := []
deriving DecidableEq, Repr

structure ModuleDocument where
  version : Nat
  sections : List SectionDocument
deriving DecidableEq, Repr

/-- The lines of the listing of an expression, as they are read off its text. -/
def Expr.code (e : Expr) : List String :=
  (Text.splitLines (Text.chomp e.text)).filter (· ≠ "")

def FuncBody.document (fb : FuncBody) : BodyDocument where
  size := fb.size.toNat
  locals := fb.locals.map fun l => toString l.count.toNat ++ " x " ++ l.type.name
  code := fb.body.code

def Section.document : Section → SectionDocument
  | types entries => { id := .types, types := entries.map fun t => "func" ++ t.signature }
  | functions entries => { id := .functions, functions := entries.map UInt32.toNat }
  | exports entries => { id := .exports, exports := entries }
  | code entries => { id := .code, bodies := entries.map FuncBody.document }

def Module.document (m : Module) : ModuleDocument where
  version := m.version.toNat
  sections := m.sections.map Section.document

def listField {α : Type} (key : String) (items : List α) (node : List α → Yaml) :
    List (String × Yaml) :=
  if items.isEmpty then [] else [(key, node items)]

def BodyDocument.fields (b : BodyDocument) : List (String × Yaml) :=
  [("size", .int b.size)]
    ++ listField "locals" b.locals .flow
    ++ [("code", .seq (b.code.map .text))]

def Export.fields (e : Export) : List (String × Yaml) :=
  [("name", .text e.name), ("kind", .text e.kind.name), ("index", .int e.index.toNat)]

def SectionDocument.fields (s : SectionDocument) : List (String × Yaml) :=
  [("id", .int s.id.byte.toNat), ("name", .text s.id.name)]
    ++ listField "types" s.types (fun ts => .seq (ts.map .text))
    ++ listField "functions" s.functions (fun fs => .flow (fs.map toString))
    ++ listField "exports" s.exports (fun es => .seq (es.map fun e => .map e.fields))
    ++ listField "bodies" s.bodies (fun bs => .seq (bs.map fun b => .map b.fields))

def ModuleDocument.yaml (d : ModuleDocument) : String :=
  Yaml.document [("version", .int d.version),
    ("sections", .seq (d.sections.map fun s => .map s.fields))]

def Module.yaml (m : Module) : String := m.document.yaml

def yamlFullMessage : String := "could not marshal YAML: yaml: write error: " ++ Sink.fullMessage

end WasmScope

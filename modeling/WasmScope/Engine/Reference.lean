import WasmScope.Engine.Basic
import WasmScope.Engine.Sections

namespace WasmScope.Engine

namespace Parts

def importedFunctions (p : Parts) : List Nat :=
  p.imports.filterMap fun i =>
    match i.item with
    | .function type => some type
    | _ => none

def importedTables (p : Parts) : List ValType :=
  p.imports.filterMap fun i =>
    match i.item with
    | .table element => some element
    | _ => none

def importsMemory (p : Parts) : Bool := p.imports.any fun i => i.item == .memory

def importedGlobals (p : Parts) : List GlobalType :=
  p.imports.filterMap fun i =>
    match i.item with
    | .global type => some type
    | _ => none

def functionTypes? (p : Parts) : Option (List FuncType) :=
  (p.importedFunctions ++ p.functions).mapM fun type => p.types[type]?

def allGlobals (p : Parts) : List GlobalType := p.importedGlobals ++ p.globals.map Prod.fst

def functionRefs (items : List Constant) : List Nat :=
  items.filterMap fun
    | .function index => some index
    | _ => none

/-- The functions named outside of code: in globals, elements and exports. -/
def references (p : Parts) : List Nat :=
  functionRefs (p.globals.map Prod.snd)
    ++ p.elements.flatMap (fun e => functionRefs e.items)
    ++ (p.exports.filter (·.kind == 0)).map (·.index)

def context (p : Parts) (functions : List FuncType) : Context where
  types := p.types
  functions := functions
  tables := p.importedTables ++ p.tables
  hasMemory := p.importsMemory || p.hasMemory
  globals := p.allGlobals
  elements := p.elements.map (·.type)
  dataCount := p.dataCount
  references := p.references

/-- A constant has the given type, where it may refer to as many functions as given and to imported
globals. -/
def hasType (p : Parts) (functions : Nat) (type : ValType) : Constant → Bool
  | .value t => t == type
  | .null t => t == type
  | .function index => type == .funcref && index < functions
  | .global index _ => (p.importedGlobals[index]?).any (·.type == type)

def isGlobalValid (p : Parts) (c : Context) (g : GlobalType × Constant) : Bool :=
  p.hasType c.functions.length g.1.type g.2

def isItemValid (c : Context) : Constant → Bool
  | .function index => index < c.functions.length
  | .global _ item => item < c.globals.length
  | _ => true

def isElementValid (p : Parts) (c : Context) (e : ElementSegment) : Bool :=
  e.items.all (isItemValid c)
    && (match e.placement with
      | .active table offset => c.tables[table]? == some e.type && p.hasType 0 .i32 offset
      | _ => true)

def isDataValid (p : Parts) (c : Context) : Placement → Bool
  | .active _ offset => c.hasMemory && p.hasType 0 .i32 offset
  | _ => true

def isExportValid (c : Context) (e : ExportEntry) : Bool :=
  match e.kind with
  | 0 => e.index < c.functions.length
  | 1 => e.index < c.tables.length
  | 2 => e.index == 0 && c.hasMemory
  | _ => e.index < c.globals.length

def isStartValid (p : Parts) (c : Context) : Bool :=
  match p.start with
  | none => true
  | some index => c.functions[index]? == some ⟨[], []⟩

def areBodiesValid (p : Parts) (c : Context) : Bool :=
  p.functions.length == p.bodies.length
    && ((c.functions.drop p.importedFunctions.length).zip p.bodies).all
      fun (type, body) => checkBody c type body

/-- The parts fit each other. Memories can be imported any number of times, but not beside one of
the module's own. -/
def isValid (p : Parts) (c : Context) : Bool :=
  !(p.importsMemory && p.hasMemory)
    && p.imports.all (fun i => i.moduleName != "")
    && p.globals.all (p.isGlobalValid c)
    && p.elements.all (p.isElementValid c)
    && p.data.all (p.isDataValid c)
    && (p.dataCount == none || p.dataCount == some p.data.length)
    && p.exports.all (isExportValid c)
    && p.isStartValid c
    && p.areBodiesValid c

def exportedFunctions (p : Parts) (functions : List FuncType) : List (String × FuncType) :=
  p.exports.filterMap fun e =>
    if e.kind = 0 then (functions[e.index]?).map fun type => (e.name, type) else none

end Parts

/-- The engine that implements WebAssembly 2.0. -/
def reference : Engine where
  exports? data := do
    let p ← parts? data
    let functions ← p.functionTypes?
    if p.isValid (p.context functions) then some (p.exportedFunctions functions) else none

end WasmScope.Engine

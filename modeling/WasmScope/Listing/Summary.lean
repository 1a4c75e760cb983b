import WasmScope.Listing.Sink
import WasmScope.Module.Basic
import WasmScope.Module.Walk
import WasmScope.Text.Aligned

namespace WasmScope

structure SectionSummary where
  position : Nat
  id : SectionId
  entries : Nat
deriving DecidableEq, Repr

structure Summary where
  version : Nat
  sections : List SectionSummary
  types : Nat
  functions : Nat
  exports : Nat
  bodies : Nat
  instructions : Nat
deriving DecidableEq, Repr

def Module.summary (m : Module) : Summary where
  version := m.version.toNat
  sections := m.sections.mapIdx fun i s => ⟨i, s.id, s.entries⟩
  types := m.types.length
  functions := m.functions.length
  exports := m.exports.length
  bodies := m.bodies.length
  instructions := m.bodies.foldl (fun n fb => fb.body.walkWith (fun _ _ n => (true, n + 1)) 0 n) 0

def SectionSummary.line (s : SectionSummary) : String :=
  "  " ++ Text.alignRight 2 (toString s.position) ++ "  " ++ Text.alignLeft 9 s.id.name ++ " "
    ++ toString s.entries

namespace Summary

def lines (s : Summary) : List String :=
  ["version: " ++ toString s.version, "sections: " ++ toString s.sections.length]
    ++ s.sections.map SectionSummary.line
    ++ ["types: " ++ toString s.types, "functions: " ++ toString s.functions,
      "exports: " ++ toString s.exports, "bodies: " ++ toString s.bodies,
      "instructions: " ++ toString s.instructions]

def text (s : Summary) : String := String.join (s.lines.map (· ++ "\n"))

/-- The writes that the summary is made in: one of what stands before the sections, one of each
section and one of what stands behind them. -/
def pieces (s : Summary) : List String :=
  ["version: " ++ toString s.version ++ "\nsections: " ++ toString s.sections.length ++ "\n"]
    ++ s.sections.map (fun x => x.line ++ "\n")
    ++ ["types: " ++ toString s.types ++ "\nfunctions: " ++ toString s.functions
      ++ "\nexports: " ++ toString s.exports ++ "\nbodies: " ++ toString s.bodies
      ++ "\ninstructions: " ++ toString s.instructions ++ "\n"]

theorem join_pieces (s : Summary) : String.join s.pieces = s.text := by
  simp only [pieces, text, lines, List.map_append, List.map_cons, List.map_nil, List.map_map,
    String.join_append, String.join_cons, String.join_nil, String.append_empty,
    String.append_assoc]
  rfl

def writeTo (s : Summary) (sink : Sink) : Sink × Nat × Bool := sink.writeAll s.pieces

end Summary

end WasmScope

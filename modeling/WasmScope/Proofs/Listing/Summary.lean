import Mathlib.Algebra.Ring.Nat
import WasmScope.Listing.Summary
import WasmScope.Proofs.Listing.Code

namespace WasmScope

namespace Text

def utf8 (s : String) : List UInt8 := s.toByteArray.data.toList

theorem utf8_append (s t : String) : utf8 (s ++ t) = utf8 s ++ utf8 t := by
  rw [utf8, String.toByteArray_append, ByteArray.data_append, Array.toList_append]
  rfl

end Text

namespace Sink

/-- What is left of data that are written to a sink with some room: the sink, the number of bytes
stored and whether these are all. -/
def filled (room : Nat) (stored data : List UInt8) : Sink × Nat × Bool :=
  (⟨some (room - data.length), stored ++ data.take room⟩, min room data.length,
    decide (data.length ≤ room))

variable {room : Nat} {stored data : List UInt8}

theorem filled_of_le (h : data.length ≤ room) :
    filled room stored data = (⟨some (room - data.length), stored ++ data⟩, data.length, true) := by
  rw [filled, List.take_of_length_le h, Nat.min_eq_right h, decide_eq_true h]

theorem filled_of_lt (h : room < data.length) :
    filled room stored data = (⟨some 0, stored ++ data.take room⟩, room, false) := by
  rw [filled, Nat.sub_eq_zero_of_le (Nat.le_of_lt h), Nat.min_eq_left (Nat.le_of_lt h),
    decide_eq_false (Nat.not_le_of_lt h)]

theorem filled_append (h : data.length ≤ room) (more : List UInt8) :
    filled room stored (data ++ more) =
      let (s, n, ok) := filled (room - data.length) (stored ++ data) more
      (s, data.length + n, ok) := by
  have hall : data.length + more.length ≤ room ↔ more.length ≤ room - data.length := by omega
  simp only [filled, List.take_append, List.take_of_length_le h, List.append_assoc,
    List.length_append, Nat.sub_sub, hall]
  rw [← Nat.add_min_add_left, Nat.add_sub_cancel' h]

theorem write_eq_filled (room : Nat) (stored : List UInt8) (text : String) :
    write ⟨some room, stored⟩ text = filled room stored (Text.utf8 text) := by
  change (if (Text.utf8 text).length ≤ room then _ else _) = _
  split
  · next h => exact (filled_of_le h).symm
  · next h => exact (filled_of_lt (Nat.lt_of_not_le h)).symm

/-- Texts that are written in turn leave what their join does, wherever the sink is full. -/
theorem writeAll_eq_filled (room : Nat) (stored : List UInt8) (texts : List String) :
    writeAll ⟨some room, stored⟩ texts = filled room stored (Text.utf8 (String.join texts)) := by
  induction texts generalizing room stored with
  | nil => simp [writeAll, filled, Text.utf8]
  | cons text texts ih =>
    rw [writeAll, write_eq_filled, String.join_cons, Text.utf8_append]
    by_cases h : (Text.utf8 text).length ≤ room
    · rw [filled_append h, filled_of_le h]
      dsimp only
      rw [ih]
    · have hlt := Nat.lt_of_not_le h
      have hlonger : room < (Text.utf8 text ++ Text.utf8 (String.join texts)).length := by
        rw [List.length_append]
        omega
      rw [filled_of_lt hlt, filled_of_lt hlonger, List.take_append_of_le_length (Nat.le_of_lt hlt)]

end Sink

namespace Module

def entriesWithId (m : Module) (id : SectionId) : Nat :=
  ((m.sectionsWithId id).map Section.entries).sum

theorem length_flatMap_sections {α : Type} {collect : Section → List α} {id : SectionId}
    (h : ∀ s : Section, (collect s).length = if s.id == id then s.entries else 0) (m : Module) :
    (m.sections.flatMap collect).length = m.entriesWithId id := by
  rw [entriesWithId, sectionsWithId]
  induction m.sections with
  | nil => rfl
  | cons s ss ih =>
    rw [List.flatMap_cons, List.length_append, ih, h, List.filter_cons]
    split
    · rw [List.map_cons, List.sum_cons]
    · rw [Nat.zero_add]

end Module

/-- The line of code shows an instruction, and not where one branch or body ends. -/
def showsInstr (line : String) : Bool :=
  let text := (Text.unindented line).2
  text ≠ "else" && text ≠ "end"

theorem isSome_visitOfLine (line : String) : (visitOfLine line).isSome = showsInstr line := by
  have hvisit : visitOfLine line =
      if (Text.unindented line).2 = "else" ∨ (Text.unindented line).2 = "end" then none
      else some (Text.unindented line) := rfl
  rw [hvisit, showsInstr]
  split
  · next h => rcases h with h | h <;> simp [h]
  · next h => simpa using h

theorem Expr.countP_code (e : Expr) : e.code.countP showsInstr = e.walkAll.length := by
  have hvisits := congrArg List.length (e.filterMap_lines 0)
  rw [List.length_map, ← List.filterMap_map, List.length_filterMap_eq_countP] at hvisits
  simp only [isSome_visitOfLine] at hvisits
  rw [code_eq]
  exact hvisits

theorem Expr.walkWith_count (e : Expr) (n : Nat) :
    e.walkWith (fun _ _ n => (true, n + 1)) 0 n = n + e.code.countP showsInstr := by
  rw [e.walkWith_foldl (fun _ => true) (fun n _ => n + 1), List.foldl_add_const, Nat.one_mul,
    countP_code]
  rfl

namespace Module

def documentCode (m : Module) : List String :=
  (m.document.sections.flatMap (·.bodies)).flatMap (·.code)

theorem documentCode_eq (m : Module) : m.documentCode = m.bodies.flatMap (·.body.code) := by
  have hbodies (s : Section) : s.document.bodies = s.bodyEntries.map FuncBody.document := by
    cases s <;> rfl
  simp only [documentCode, document, bodies, List.flatMap_map, List.flatMap_assoc, hbodies]
  rfl

theorem instructions_eq (m : Module) :
    m.summary.instructions = m.documentCode.countP showsInstr := by
  have happend (n : Nat) (xs ys : List String) :
      n + (xs ++ ys).countP showsInstr = n + xs.countP showsInstr + ys.countP showsInstr := by
    rw [List.countP_append, Nat.add_assoc]
  have hcount := foldl_eq_of_flatMap (fun n lines => n + lines.countP showsInstr) (fun _ => rfl)
    happend (fun (fb : FuncBody) (_ : fb ∈ m.bodies) => fb.body.walkWith_count) 0
  rw [documentCode_eq, ← Nat.zero_add (List.countP _ _)]
  exact hcount

/-- A summary counts the entries of each kind over the sections with its id, lists every section at
its position, and counts the instructions that the code in the document shows, line by line.
Written to a sink with room for `limit` bytes, it leaves the first of its bytes there, as many as
there is room for, counts these, and fails where they are not all. -/
theorem summary_accounts (m : Module) :
    let s := m.summary
    let data := Text.utf8 s.text
    s.types = m.entriesWithId .types ∧ s.functions = m.entriesWithId .functions ∧
      s.exports = m.entriesWithId .exports ∧ s.bodies = m.entriesWithId .code ∧
      (∀ i : Nat, s.sections[i]? = m.sections[i]?.map fun x => ⟨i, x.id, x.entries⟩) ∧
      s.instructions = m.documentCode.countP showsInstr ∧
      ∀ limit, ∃ sink count ok, s.writeTo (.limited limit) = (sink, count, ok) ∧
        sink.stored = data.take limit ∧ count = min limit data.length ∧
        (ok = false ↔ limit < data.length) := by
  intro s data
  have htypes : s.types = m.entriesWithId .types :=
    length_flatMap_sections (fun s => by cases s <;> rfl) m
  have hfunctions : s.functions = m.entriesWithId .functions :=
    length_flatMap_sections (fun s => by cases s <;> rfl) m
  have hexports : s.exports = m.entriesWithId .exports :=
    length_flatMap_sections (fun s => by cases s <;> rfl) m
  have hbodies : s.bodies = m.entriesWithId .code :=
    length_flatMap_sections (fun s => by cases s <;> rfl) m
  refine ⟨htypes, hfunctions, hexports, hbodies, fun i => List.getElem?_mapIdx, m.instructions_eq,
    fun limit => ?_⟩
  have hwrite := Sink.writeAll_eq_filled limit [] s.pieces
  rw [s.join_pieces] at hwrite
  refine ⟨_, _, _, hwrite, rfl, rfl, ?_⟩
  rw [decide_eq_false_iff_not, Nat.not_le]

end Module

end WasmScope

import WasmScope.Proofs.Listing.Agreement

namespace WasmScope

namespace Text

def isParameter (c : Char) : Bool := c.isDigit || c == ';'

/-- What follows the sequence that an escape begins, if there is one: a bracket, numbers and an
`m`. -/
def afterSequence : List Char → Option (List Char)
  | '[' :: cs =>
    match cs.dropWhile isParameter with
    | 'm' :: rest => some rest
    | _ => none
  | _ => none

theorem length_afterSequence {cs rest : List Char} (h : afterSequence cs = some rest) :
    rest.length < cs.length := by
  unfold afterSequence at h
  split at h
  · next cs =>
    split at h
    · next hdrop =>
      cases h
      have hle : (cs.dropWhile isParameter).length ≤ cs.length :=
        (List.dropWhile_sublist _).length_le
      rw [hdrop, List.length_cons] at hle
      exact Nat.lt_succ_of_lt hle
    · cases h
  · cases h

def unstyledChars : List Char → List Char
  | [] => []
  | c :: cs =>
    if c = '\x1b' then
      match _ : afterSequence cs with
      | some rest => unstyledChars rest
      | none => c :: unstyledChars cs
    else c :: unstyledChars cs
termination_by cs => cs.length
decreasing_by
  · exact Nat.lt_succ_of_lt (length_afterSequence ‹_›)
  · exact Nat.lt_succ_self _
  · exact Nat.lt_succ_self _

def unstyled (s : String) : String := String.ofList (unstyledChars s.toList)

theorem unstyledChars_append {front : List Char} (h : '\x1b' ∉ front) (cs : List Char) :
    unstyledChars (front ++ cs) = front ++ unstyledChars cs := by
  induction front with
  | nil => rfl
  | cons c front ih =>
    have hc : c ≠ '\x1b' := fun hc => h (hc ▸ List.mem_cons_self)
    rw [List.cons_append, unstyledChars, if_neg hc, ih fun hmem => h (List.mem_cons_of_mem _ hmem),
      List.cons_append]

theorem unstyledChars_sequence {numbers : List Char} (h : ∀ c ∈ numbers, isParameter c = true)
    (cs : List Char) :
    unstyledChars ('\x1b' :: '[' :: numbers ++ 'm' :: cs) = unstyledChars cs := by
  have hdrop : (numbers ++ 'm' :: cs).dropWhile isParameter = 'm' :: cs :=
    dropWhile_append_of_stop h (by rintro c ⟨⟩; rfl)
  have hafter : afterSequence ('[' :: (numbers ++ 'm' :: cs)) = some cs := by
    rw [afterSequence, hdrop]
    rfl
  rw [List.cons_append, List.cons_append, unstyledChars, if_pos rfl]
  -- the match keeps its equation for termination, so `hafter` cannot be rewritten into it
  split
  · next rest hrest =>
    rw [hafter] at hrest
    cases hrest
    rfl
  · next hnone =>
    rw [hafter] at hnone
    cases hnone

end Text

namespace Colour

theorem unstyledChars_start (colour : Colour) (cs : List Char) :
    Text.unstyledChars (colour.start.toList ++ cs) = Text.unstyledChars cs := by
  have hdigits (n : Nat) : ∀ c ∈ n.repr.toList, Text.isParameter c = true := by
    intro c hc
    rw [Nat.repr_eq_ofList_toDigits, String.toList_ofList] at hc
    rw [Text.isParameter, Nat.isDigit_of_mem_toDigits (by decide) (by decide) hc, Bool.true_or]
  have hnumbers : ∀ c ∈ "38;2;".toList ++ colour.red.repr.toList ++ ";".toList
      ++ colour.green.repr.toList ++ ";".toList ++ colour.blue.repr.toList,
      Text.isParameter c = true := by
    have hopening : ∀ c ∈ "38;2;".toList, Text.isParameter c = true :=
      List.all_eq_true.1 (by decide)
    have hsemicolon : ∀ c ∈ ";".toList, Text.isParameter c = true :=
      List.all_eq_true.1 (by decide)
    simp only [List.forall_mem_append]
    exact ⟨⟨⟨⟨⟨hopening, hdigits _⟩, hsemicolon⟩, hdigits _⟩, hsemicolon⟩, hdigits _⟩
  rw [← Text.unstyledChars_sequence hnumbers cs]
  simp [start]

theorem unstyledChars_stop (cs : List Char) :
    Text.unstyledChars (stop.toList ++ cs) = Text.unstyledChars cs :=
  @Text.unstyledChars_sequence ['0'] (List.all_eq_true.1 (by decide)) cs

end Colour

theorem Part.unstyledChars_render {p : Part} (h : Text.Printable p.text) (theme : Theme)
    (cs : List Char) :
    Text.unstyledChars ((p.render theme).toList ++ cs) = p.text.toList ++ Text.unstyledChars cs := by
  have htext := h.notMem Text.isPrintable_escape
  unfold render
  split
  · exact Text.unstyledChars_append htext cs
  · next colour _ =>
    rw [String.toList_append, String.toList_append, List.append_assoc, List.append_assoc,
      colour.unstyledChars_start, Text.unstyledChars_append htext, Colour.unstyledChars_stop]

namespace Line

theorem unstyledChars_parts {parts : List Part} (h : ∀ p ∈ parts, Text.Printable p.text)
    (theme : Theme) (cs : List Char) :
    Text.unstyledChars ((String.join (parts.map (·.render theme))).toList ++ cs) =
      (String.join (parts.map Part.text)).toList ++ Text.unstyledChars cs := by
  induction parts with
  | nil => rfl
  | cons p parts ih =>
    rw [List.map_cons, String.join_cons, String.toList_append, List.append_assoc,
      Part.unstyledChars_render (h p List.mem_cons_self),
      ih fun q hq => h q (List.mem_cons_of_mem _ hq), List.map_cons, String.join_cons,
      String.toList_append, List.append_assoc]

theorem Printable.unstyledChars_render {l : Line} (h : l.Printable) (theme : Theme)
    (cs : List Char) :
    Text.unstyledChars ((l.render theme).toList ++ cs) = l.plain.toList ++ Text.unstyledChars cs := by
  have hblanks : '\x1b' ∉ (Text.fill ' ' (2 * l.indent)).toList :=
    (Text.printable_fill (by decide) _).notMem Text.isPrintable_escape
  rw [render, String.toList_append, List.append_assoc, Text.unstyledChars_append hblanks,
    unstyledChars_parts h, plain_eq, String.toList_append, List.append_assoc]

/-- Without the sequences of its colours, a listing of printable lines reads as it does without
colours. -/
theorem unstyled_renderAll {ls : List Line} (h : ∀ l ∈ ls, l.Printable) (theme : Theme) :
    Text.unstyled (renderAll theme ls) = renderAll .uncoloured ls := by
  rw [Text.unstyled, ← String.toList_inj, String.toList_ofList]
  induction ls with
  | nil => simp [renderAll, Text.unstyledChars]
  | cons l ls ih =>
    rw [renderAll_cons, renderAll_cons, String.toList_append, String.toList_append,
      List.append_assoc, (h l List.mem_cons_self).unstyledChars_render,
      Text.unstyledChars_append (by decide), ih fun l hl => h l (List.mem_cons_of_mem _ hl)]
    simp [plain]

theorem mem_renderAll {ls : List Line} (h : ∀ l ∈ ls, l.Printable) :
    ∀ c ∈ (renderAll .uncoloured ls).toList, c = '\n' ∨ Text.isPrintable c = true := by
  induction ls with
  | nil => nofun
  | cons l ls ih =>
    intro c hc
    rw [renderAll_cons, String.toList_append, String.toList_append] at hc
    rcases List.mem_append.1 hc with hc | hc
    · rcases List.mem_append.1 hc with hc | hc
      · exact .inr ((h l List.mem_cons_self).plain c hc)
      · exact .inl (List.mem_singleton.1 hc)
    · exact ih (fun l hl => h l (List.mem_cons_of_mem _ hl)) c hc

theorem count_break_renderAll {ls : List Line} (h : ∀ l ∈ ls, l.Printable) :
    (renderAll .uncoloured ls).toList.count '\n' = ls.length := by
  induction ls with
  | nil => rfl
  | cons l ls ih =>
    have hline := (h l List.mem_cons_self).plain.notMem Text.isPrintable_break
    rw [renderAll_cons, ← plain, String.toList_append, String.toList_append, List.count_append,
      List.count_append, List.count_eq_zero.2 hline, ih fun l hl => h l (List.mem_cons_of_mem _ hl),
      List.length_cons, Nat.zero_add, Nat.add_comm]
    rfl

end Line

def Section.unnamed : Section → Section
  | .exports entries => .exports (entries.map fun e => { e with name := "" })
  | s => s

namespace Module

def unnamed (m : Module) : Module := { m with sections := m.sections.map Section.unnamed }

theorem length_lines_unnamed (m : Module) : m.unnamed.lines.length = m.lines.length := by
  have hsection (i : Nat) (s : Section) :
      (sectionLines i s.unnamed).length = (sectionLines i s).length := by
    cases s <;> simp [Section.unnamed, sectionLines, Section.lines]
  simp [lines, unnamed, List.mapIdx_eq_zipIdx_map, List.zipIdx_map, Function.comp_def, hsection]

/-- Whatever the names in a module are, its listing has only printable characters in its lines, and
as many lines as with other names; and its colours add nothing but their sequences. -/
theorem text_inert (m : Module) :
    (∀ c ∈ (m.text .uncoloured).toList, c = '\n' ∨ Text.isPrintable c = true) ∧
      (∀ m' : Module, m'.unnamed = m.unnamed →
        (m'.text .uncoloured).toList.count '\n' = (m.text .uncoloured).toList.count '\n') ∧
      ∀ theme : Theme, Text.unstyled (m.text theme) = m.text .uncoloured := by
  refine ⟨Line.mem_renderAll m.printable_lines, ?_, Line.unstyled_renderAll m.printable_lines⟩
  intro m' h
  rw [text, text, Line.count_break_renderAll m'.printable_lines,
    Line.count_break_renderAll m.printable_lines, ← length_lines_unnamed, h, length_lines_unnamed]

/-- A name that breaks the line and switches a colour off, against one that does neither. -/
theorem text_inert_hostile :
    let m : Module := ⟨.magic, .version1, [.exports [⟨"main", .func, 0⟩]]⟩
    let m' : Module := ⟨.magic, .version1, [.exports [⟨"\n)\n\x1b[0m\"", .func, 0⟩]]⟩
    m'.unnamed = m.unnamed ∧
      (m'.text .uncoloured).toList.count '\n' = (m.text .uncoloured).toList.count '\n' ∧
      (∀ c ∈ (m'.text .uncoloured).toList, c = '\n' ∨ Text.isPrintable c = true) ∧
      Text.unstyled (m'.text .terminal) = m'.text .uncoloured := by
  intro m m'
  have hnames : m'.unnamed = m.unnamed := rfl
  exact ⟨hnames, (text_inert m).2.1 m' hnames, (text_inert m').1, (text_inert m').2.2 .terminal⟩

end Module

end WasmScope

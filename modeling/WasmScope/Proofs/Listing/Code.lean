import WasmScope.Listing.Document
import WasmScope.Proofs.Module.Walk
import WasmScope.Proofs.Text.Printable

namespace WasmScope

namespace Text

def Flush (s : String) : Prop := ∃ c cs, s.toList = c :: cs ∧ c ≠ ' '

structure IsWord (s : String) : Prop where
  printable : Printable s
  blankFree : ' ' ∉ s.toList
  nonempty : s ≠ ""

def Trails (s : String) : Prop := ∀ c ∈ s.toList.head?, c = ' '

/-- A text falls into its first word and what trails it in one way. -/
theorem append_inj_of_trails {s s' t t' : String} (hs : ' ' ∉ s.toList) (hs' : ' ' ∉ s'.toList)
    (ht : Trails t) (ht' : Trails t') (h : s ++ t = s' ++ t') : s = s' ∧ t = t' := by
  have hfirst {s t : String} (hs : ' ' ∉ s.toList) (ht : Trails t) :
      (s ++ t).toList.takeWhile (· ≠ ' ') = s.toList := by
    rw [String.toList_append]
    apply takeWhile_append_of_stop
    · intro c hc
      apply decide_eq_true
      rintro rfl
      exact hs hc
    · intro c hc
      rw [ht c hc]
      rfl
  have hword : s = s' := by rw [← String.toList_inj, ← hfirst hs ht, ← hfirst hs' ht', h]
  subst hword
  exact ⟨rfl, (String.append_right_inj s).1 h⟩

theorem Flush.ne_empty {s : String} (h : Flush s) : s ≠ "" := by
  rintro rfl
  obtain ⟨c, cs, hs, -⟩ := h
  cases hs

theorem IsWord.flush_append {s : String} (h : IsWord s) (t : String) : Flush (s ++ t) := by
  cases hs : s.toList with
  | nil => exact absurd (String.toList_eq_nil_iff.1 hs) h.nonempty
  | cons c cs =>
    refine ⟨c, cs ++ t.toList, ?_, ?_⟩
    · rw [String.toList_append, hs, List.cons_append]
    · rintro rfl
      exact h.blankFree (hs ▸ List.mem_cons_self)

/-- A line as the levels it is indented by and what stands behind the indentation. -/
def unindented (line : String) : Nat × String :=
  ((line.toList.takeWhile (· = ' ')).length / 2, String.ofList (line.toList.dropWhile (· = ' ')))

theorem unindented_fill {s : String} (h : Flush s) (n : Nat) :
    unindented (fill ' ' (2 * n) ++ s) = (n, s) := by
  obtain ⟨c, cs, hs, hc⟩ := h
  have hblanks : ∀ b ∈ List.replicate (2 * n) ' ', decide (b = ' ') = true :=
    fun b hb => decide_eq_true (List.eq_of_mem_replicate hb)
  have hstop : ∀ b ∈ s.toList.head?, decide (b = ' ') = false := by
    rw [hs]
    rintro b ⟨⟩
    exact decide_eq_false hc
  rw [unindented, fill, String.toList_append, String.toList_ofList,
    takeWhile_append_of_stop hblanks hstop, dropWhile_append_of_stop hblanks hstop,
    List.length_replicate, Nat.mul_div_cancel_left n (by decide), String.ofList_toList]

end Text

namespace Line

def Printable (l : Line) : Prop := ∀ p ∈ l.parts, Text.Printable p.text

theorem plain_eq (l : Line) :
    l.plain = Text.fill ' ' (2 * l.indent) ++ String.join (l.parts.map Part.text) := rfl

theorem Printable.plain {l : Line} (h : l.Printable) : Text.Printable l.plain := by
  rw [plain_eq, Text.printable_append, Text.printable_join]
  refine ⟨Text.printable_fill (by decide) _, ?_⟩
  intro s hs
  obtain ⟨p, hp, rfl⟩ := List.mem_map.1 hs
  exact h p hp

theorem renderAll_uncoloured (ls : List Line) :
    renderAll .uncoloured ls = String.join ((ls.map plain).map (· ++ "\n")) := by
  rw [List.map_map]
  rfl

theorem break_notMem_plain {ls : List Line} (h : ∀ l ∈ ls, l.Printable) :
    ∀ s ∈ ls.map plain, '\n' ∉ s.toList := by
  intro s hs
  obtain ⟨l, hl, rfl⟩ := List.mem_map.1 hs
  exact (h l hl).plain.notMem Text.isPrintable_break

/-- Lines are read back from their text. -/
theorem closedLines_renderAll {ls : List Line} (h : ∀ l ∈ ls, l.Printable) :
    Text.closedLines (renderAll .uncoloured ls) = ls.map plain := by
  rw [renderAll_uncoloured, Text.closedLines_join (break_notMem_plain h)]

end Line

theorem ValType.printable_name (t : ValType) : Text.Printable t.name := by
  unfold name
  split <;> decide

theorem BlockType.printable_text (bt : BlockType) : Text.Printable bt.text := by
  unfold text
  split
  · simp +decide [ValType.printable_name]
  · simp +decide
  · decide

def BlockType.suffix (bt : BlockType) : String :=
  if bt.text.isEmpty then "" else " " ++ bt.text

theorem BlockType.printable_suffix (bt : BlockType) : Text.Printable bt.suffix := by
  unfold suffix
  split
  · decide
  · simp +decide [bt.printable_text]

theorem Opcode.isWord_mnemonic (op : Opcode) : Text.IsWord op.mnemonic := by
  unfold mnemonic
  split <;> exact ⟨by decide, by decide, by decide⟩

namespace Instr

inductive Head where
  | localVar (access : LocalAccess)
  | const
  | numeric (op : NumericOp)
  | branch (mode : BranchMode)
  | block (shape : BlockShape)
  | cond
deriving DecidableEq

namespace Head

def opcode : Head → Opcode
  | localVar access => access.opcode
  | const => .i32Const
  | numeric op => op.opcode
  | branch mode => mode.opcode
  | block shape => shape.opcode
  | cond => .cond

def all : List Head :=
  [localVar .get, localVar .set, const, numeric .eqz, numeric .eq, numeric .ltS, numeric .geS,
    numeric .add, numeric .remS, branch .always, branch .onTrue, block .block, block .loop, cond]

theorem mem_all (h : Head) : h ∈ all := by
  cases h with
  | localVar access => cases access <;> decide
  | const => decide
  | numeric op => cases op <;> decide
  | branch mode => cases mode <;> decide
  | block shape => cases shape <;> decide
  | cond => decide

theorem mnemonic_ne_marker (h : Head) :
    h.opcode.mnemonic ≠ "else" ∧ h.opcode.mnemonic ≠ "end" :=
  (by decide : ∀ h ∈ all, h.opcode.mnemonic ≠ "else" ∧ h.opcode.mnemonic ≠ "end") h h.mem_all

end Head

def head : Instr → Head
  | localVar access _ => .localVar access
  | const _ => .const
  | numeric op => .numeric op
  | branch mode _ => .branch mode
  | block shape _ _ => .block shape
  | cond _ _ _ => .cond

theorem opcode_head (i : Instr) : i.head.opcode = i.opcode := by
  cases i <;> rfl

def operand : Instr → String
  | localVar _ index => " " ++ toString index.toNat
  | const value => " " ++ toString value.toInt
  | numeric _ => ""
  | branch _ label => " " ++ toString label.toNat
  | block _ type _ => type.suffix
  | cond type _ _ => type.suffix

theorem text_eq (i : Instr) : i.text = i.opcode.mnemonic ++ i.operand := by
  have htype (op : Opcode) (bt : BlockType) : withBlockType op bt = op.mnemonic ++ bt.suffix := by
    rw [withBlockType, BlockType.suffix]
    split
    · rw [String.append_empty]
    · rw [String.append_assoc]
  cases i with
  | localVar access index => exact String.append_assoc
  | const value => exact String.append_assoc
  | numeric op => exact String.append_empty.symm
  | branch mode label => exact String.append_assoc
  | block shape type body => exact htype _ type
  | cond type thn els => exact htype _ type

theorem printable_operand (i : Instr) : Text.Printable i.operand := by
  cases i with
  | localVar access index => simp +decide [operand]
  | const value => simp +decide [operand]
  | numeric op => simp +decide [operand]
  | branch mode label => simp +decide [operand]
  | block shape type body => exact type.printable_suffix
  | cond type thn els => exact type.printable_suffix

theorem operand_trails (i : Instr) : Text.Trails i.operand := by
  have hblank (s : String) : Text.Trails (" " ++ s) := by
    rw [Text.Trails, String.toList_append]
    rintro c ⟨⟩
    rfl
  have hempty : Text.Trails "" := nofun
  have htype (bt : BlockType) : Text.Trails bt.suffix := by
    unfold BlockType.suffix
    split
    · exact hempty
    · exact hblank _
  cases i with
  | localVar access index => exact hblank _
  | const value => exact hblank _
  | numeric op => exact hempty
  | branch mode label => exact hblank _
  | block shape type body => exact htype type
  | cond type thn els => exact htype type

theorem mnemonic_eq_of_text {i : Instr} {word : String} (hword : ' ' ∉ word.toList)
    (h : i.text = word) : i.head.opcode.mnemonic = word := by
  have hend : Text.Trails "" := nofun
  rw [text_eq, ← String.append_empty (s := word)] at h
  rw [opcode_head]
  exact (Text.append_inj_of_trails i.opcode.isWord_mnemonic.blankFree hword i.operand_trails hend
    h).1

theorem text_ne_marker (i : Instr) : i.text ≠ "else" ∧ i.text ≠ "end" := by
  obtain ⟨helse, hend⟩ := i.head.mnemonic_ne_marker
  exact ⟨fun h => helse (mnemonic_eq_of_text (by decide) h),
    fun h => hend (mnemonic_eq_of_text (by decide) h)⟩

end Instr

/-- What a line of code shows. -/
inductive CodeText : String → Prop
  | instr (i : Instr) : CodeText i.text
  | otherwise : CodeText Opcode.otherwise.mnemonic
  | close : CodeText Opcode.close.mnemonic

namespace CodeText

variable {s : String}

theorem eq_append (h : CodeText s) : ∃ (op : Opcode) (rest : String),
    s = op.mnemonic ++ rest ∧ Text.Printable rest := by
  cases h with
  | instr i => exact ⟨i.opcode, i.operand, i.text_eq, i.printable_operand⟩
  | otherwise => exact ⟨.otherwise, "", String.append_empty.symm, by decide⟩
  | close => exact ⟨.close, "", String.append_empty.symm, by decide⟩

theorem printable (h : CodeText s) : Text.Printable s := by
  obtain ⟨op, rest, rfl, hrest⟩ := h.eq_append
  exact Text.printable_append.2 ⟨op.isWord_mnemonic.printable, hrest⟩

theorem flush (h : CodeText s) : Text.Flush s := by
  obtain ⟨op, rest, rfl, -⟩ := h.eq_append
  exact op.isWord_mnemonic.flush_append rest

end CodeText

theorem plain_codeLine (indent : Nat) (s : String) :
    (codeLine indent s).plain = Text.fill ' ' (2 * indent) ++ s := by
  simp [Line.plain_eq, codeLine]

/-- A line of code is read back as its indentation and what it shows. -/
theorem CodeText.unindented {s : String} (h : CodeText s) (indent : Nat) :
    Text.unindented (codeLine indent s).plain = (indent, s) := by
  rw [plain_codeLine, Text.unindented_fill h.flush]

theorem CodeText.printable_line {s : String} (h : CodeText s) (indent : Nat) :
    (codeLine indent s).Printable := by
  intro p hp
  rw [List.mem_singleton.1 hp]
  exact h.printable

theorem Instr.mem_lines {i : Instr} {indent : Nat} {l : Line} (h : l ∈ i.lines indent) :
    (∃ s, CodeText s ∧ l = codeLine indent s) ∨ ∃ e ∈ i.nested, l ∈ e.lines (indent + 1) := by
  have hfirst : l = codeLine indent i.text → ∃ s, CodeText s ∧ l = codeLine indent s :=
    fun h => ⟨_, .instr i, h⟩
  have hclose : l = codeLine indent Opcode.close.mnemonic →
      ∃ s, CodeText s ∧ l = codeLine indent s := fun h => ⟨_, .close, h⟩
  cases i with
  | block shape type body =>
    simp only [lines, List.cons_append, List.mem_cons, List.mem_append, List.not_mem_nil,
      or_false] at h
    rcases h with h | h | h
    · exact .inl (hfirst h)
    · exact .inr ⟨body, by simp [nested], h⟩
    · exact .inl (hclose h)
  | cond type thn els =>
    simp only [lines, List.cons_append, List.mem_cons, List.mem_append, List.not_mem_nil,
      or_false] at h
    rcases h with h | (h | h) | h
    · exact .inl (hfirst h)
    · exact .inr ⟨thn, by simp [nested], h⟩
    · split at h
      · rcases List.mem_cons.1 h with h | h
        · exact .inl ⟨_, .otherwise, h⟩
        · exact .inr ⟨els, by simp [nested], h⟩
      · cases h
    · exact .inl (hclose h)
  | localVar access index => exact .inl (hfirst (List.mem_singleton.1 h))
  | const value => exact .inl (hfirst (List.mem_singleton.1 h))
  | numeric op => exact .inl (hfirst (List.mem_singleton.1 h))
  | branch mode label => exact .inl (hfirst (List.mem_singleton.1 h))

/-- The instruction that a line of code shows, behind its depth; the lines of an else or an end show
none. -/
def visitOfLine (line : String) : Option (Nat × String) :=
  let (depth, text) := Text.unindented line
  if text = "else" ∨ text = "end" then none else some (depth, text)

theorem visitOfLine_instr (indent : Nat) (i : Instr) :
    visitOfLine (codeLine indent i.text).plain = some (indent, i.text) := by
  rw [visitOfLine, (CodeText.instr i).unindented]
  simp [i.text_ne_marker]

theorem visitOfLine_otherwise (indent : Nat) :
    visitOfLine (codeLine indent Opcode.otherwise.mnemonic).plain = none := by
  rw [visitOfLine, CodeText.otherwise.unindented]
  rfl

theorem visitOfLine_close (indent : Nat) :
    visitOfLine (codeLine indent Opcode.close.mnemonic).plain = none := by
  rw [visitOfLine, CodeText.close.unindented]
  rfl

theorem Instr.filterMap_lines (i : Instr) (indent : Nat) :
    (i.lines indent).filterMap (visitOfLine ∘ Line.plain) = (indent, i.text) ::
      i.nested.flatMap fun e => (e.lines (indent + 1)).filterMap (visitOfLine ∘ Line.plain) := by
  cases i with
  | cond type thn els =>
    by_cases h : hasElseBranch thn els
    · simp [lines, nested, h, visitOfLine_instr, visitOfLine_otherwise, visitOfLine_close]
    · -- a second branch that is not shown has no lines
      have hels : els.isEmpty = true := by
        simp [hasElseBranch] at h
        exact h.2
      cases els with
      | close t =>
        simp [lines, Expr.lines, nested, h, visitOfLine_instr, visitOfLine_close]
      | cons head tail => cases hels
  | _ => simp [lines, nested, visitOfLine_instr, visitOfLine_close]

namespace Expr

theorem mem_lines {e : Expr} {indent : Nat} {l : Line} (h : l ∈ e.lines indent) :
    ∃ n s, indent ≤ n ∧ CodeText s ∧ l = codeLine n s := by
  induction e using nestedInduction generalizing indent with
  | close t => cases h
  | cons head tail ihnested ihtail =>
    rcases List.mem_append.1 h with h | h
    · rcases Instr.mem_lines h with ⟨s, hs, rfl⟩ | ⟨e, he, h⟩
      · exact ⟨indent, s, Nat.le_refl _, hs, rfl⟩
      · obtain ⟨n, s, hn, hs, rfl⟩ := ihnested e he h
        exact ⟨n, s, Nat.le_of_succ_le hn, hs, rfl⟩
    · exact ihtail h

theorem printable_lines (e : Expr) (indent : Nat) : ∀ l ∈ e.lines indent, l.Printable := by
  intro l hl
  obtain ⟨n, s, -, hs, rfl⟩ := mem_lines hl
  exact hs.printable_line n

theorem closedLines_text (e : Expr) : Text.closedLines e.text = (e.lines 0).map Line.plain :=
  Line.closedLines_renderAll (e.printable_lines 0)

/-- The code of a document is the listing, line by line: no line is empty or broken. -/
theorem code_eq (e : Expr) : e.code = (e.lines 0).map Line.plain := by
  have hempty : ∀ s ∈ (e.lines 0).map Line.plain, decide (s ≠ "") = true := by
    intro s hs
    obtain ⟨l, hl, rfl⟩ := List.mem_map.1 hs
    obtain ⟨n, t, -, ht, rfl⟩ := mem_lines hl
    apply decide_eq_true
    rw [plain_codeLine]
    intro h
    exact ht.flush.ne_empty (String.append_eq_empty_iff.1 h).2
  rw [code, Text.filter_splitLines_chomp, text, Line.renderAll_uncoloured,
    Text.splitLines_join (Line.break_notMem_plain (e.printable_lines 0)), List.filter_append,
    List.filter_eq_self.2 hempty]
  simp

theorem filterMap_lines (e : Expr) (indent : Nat) :
    (e.lines indent).filterMap (visitOfLine ∘ Line.plain) =
      (e.visits (fun _ => true) indent).map fun visit => (visit.1, visit.2.text) := by
  induction e using nestedInduction generalizing indent with
  | close t => rfl
  | cons head tail ihnested ihtail =>
    rw [lines, visits, Instr.visits_all, List.filterMap_append, List.map_append, ihtail,
      Instr.filterMap_lines, List.map_cons, List.map_flatMap, List.flatMap_def, List.flatMap_def,
      List.map_congr_left fun e he => ihnested e he (indent + 1)]

/-- The lines of a listing that show instructions are the visits of a full walk, and a walk that
does not descend everywhere visits those that are left when what is nested where it stops is taken
away. -/
theorem walk_listing (e : Expr) :
    (Text.closedLines e.text).filterMap visitOfLine =
        e.walkAll.map (fun visit => (visit.1, visit.2.text)) ∧
      ∀ descend : Instr → Bool, e.walk descend = pruned descend e.walkAll := by
  refine ⟨?_, e.walk_eq_pruned⟩
  rw [closedLines_text, List.filterMap_map, filterMap_lines, walkAll, walk]

end Expr

end WasmScope

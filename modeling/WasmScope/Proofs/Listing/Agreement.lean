import WasmScope.Proofs.Listing.Code

namespace WasmScope

theorem map_mapIdx {α β γ : Type} (f : Nat → α → β) (g : β → γ) (l : List α) :
    (l.mapIdx f).map g = l.mapIdx fun i a => g (f i a) := by
  simp [List.mapIdx_eq_zipIdx_map]

namespace Line

def deeper (l : Line) : Line := { l with indent := l.indent + 1 }

theorem plain_deeper (l : Line) : l.deeper.plain = "  " ++ l.plain := by
  have hfill : Text.fill ' ' (2 * (l.indent + 1)) = "  " ++ Text.fill ' ' (2 * l.indent) := by
    rw [← String.toList_inj]
    simp [Text.fill, Nat.mul_succ, List.replicate_succ]
  rw [plain_eq, plain_eq, deeper, hfill, String.append_assoc]

theorem renderAll_append (theme : Theme) (ls ls' : List Line) :
    renderAll theme (ls ++ ls') = renderAll theme ls ++ renderAll theme ls' := by
  rw [renderAll, List.map_append, String.join_append]
  rfl

theorem renderAll_cons (theme : Theme) (l : Line) (ls : List Line) :
    renderAll theme (l :: ls) = l.render theme ++ "\n" ++ renderAll theme ls := by
  rw [renderAll, List.map_cons, String.join_cons]
  rfl

theorem renderAll_flatten (theme : Theme) (lss : List (List Line)) :
    renderAll theme lss.flatten = String.join (lss.map (renderAll theme)) := by
  induction lss with
  | nil => rfl
  | cons ls lss ih =>
    rw [List.flatten_cons, renderAll_append, ih, List.map_cons, String.join_cons]

end Line

theorem Instr.lines_succ {i : Instr} {indent : Nat}
    (ih : ∀ e ∈ i.nested, e.lines (indent + 2) = (e.lines (indent + 1)).map Line.deeper) :
    i.lines (indent + 1) = (i.lines indent).map Line.deeper := by
  cases i with
  | block shape type body => simp [lines, codeLine, Line.deeper, ih body (by simp [nested])]
  | cond type thn els =>
    by_cases h : hasElseBranch thn els
    · simp [lines, h, codeLine, Line.deeper, ih thn (by simp [nested]), ih els (by simp [nested])]
    · simp [lines, h, codeLine, Line.deeper, ih thn (by simp [nested])]
  | _ => rfl

theorem Expr.lines_succ (e : Expr) (indent : Nat) :
    e.lines (indent + 1) = (e.lines indent).map Line.deeper := by
  induction e using nestedInduction generalizing indent with
  | close t => rfl
  | cons head tail ihnested ihtail =>
    rw [lines, lines, List.map_append, ihtail, Instr.lines_succ fun e he => ihnested e he _]

theorem SectionId.printable_name (id : SectionId) : Text.Printable id.name := by
  unfold name
  split <;> decide

theorem ExportKind.printable_name (k : ExportKind) : Text.Printable k.name := by
  unfold name
  split <;> decide

theorem printable_typeGroup {keyword : String} (h : Text.Printable keyword)
    (types : List ValType) : Text.Printable (typeGroup keyword types) := by
  unfold typeGroup
  split
  · decide
  · simp +decide [h, ValType.printable_name]

theorem FuncType.printable_signature (t : FuncType) : Text.Printable t.signature :=
  Text.printable_append.2
    ⟨printable_typeGroup (by decide) t.params, printable_typeGroup (by decide) t.results⟩

theorem LocalEntry.printable_text (l : LocalEntry) : Text.Printable l.text := by
  rw [text, Text.printable_append, Text.printable_join]
  constructor
  · intro s hs
    rw [List.eq_of_mem_replicate hs]
    exact Text.printable_append.2 ⟨by decide, l.type.printable_name⟩
  · split
    · simp +decide
    · decide

theorem printable_localsText (locals : List LocalEntry) : Text.Printable (localsText locals) := by
  unfold localsText
  split
  · decide
  · simp +decide [LocalEntry.printable_text]

theorem printable_indexText (i : Nat) : Text.Printable (indexText i) := by
  simp +decide [indexText]

theorem printable_closingLine (indent : Nat) : (closingLine indent).Printable := by
  simp +decide [closingLine, Line.Printable, plainPart]

theorem FuncBody.printable_header (fb : FuncBody) (indent i : Nat) :
    (fb.header indent i).Printable := by
  simp +decide [header, Line.Printable, plainPart, keywordPart, commentPart, printable_indexText,
    printable_localsText]

theorem FuncBody.printable_lines (fb : FuncBody) (indent i : Nat) :
    ∀ l ∈ fb.lines indent i, l.Printable := by
  intro l hl
  rcases List.mem_append.1 hl with hl | hl
  · rcases List.mem_cons.1 hl with rfl | hl
    · exact fb.printable_header indent i
    · exact fb.body.printable_lines (indent + 1) l hl
  · rw [List.mem_singleton.1 hl]
    exact printable_closingLine indent

namespace Section

/-- Whatever the names in a section are, every line of it may stand in a listing as it is. -/
theorem printable_lines (s : Section) (indent : Nat) : ∀ l ∈ s.lines indent, l.Printable := by
  intro l hl
  cases s with
  | types entries =>
    obtain ⟨i, hi, rfl⟩ := List.mem_mapIdx.1 hl
    simp +decide [FuncType.line, Line.Printable, plainPart, keywordPart, printable_indexText,
      FuncType.printable_signature]
  | functions entries =>
    obtain ⟨i, hi, rfl⟩ := List.mem_mapIdx.1 hl
    simp +decide [functionLine, Line.Printable, plainPart, keywordPart, printable_indexText]
  | exports entries =>
    obtain ⟨e, -, rfl⟩ := List.mem_map.1 hl
    simp +decide [Export.line, Line.Printable, plainPart, keywordPart, Text.printable_quoted,
      ExportKind.printable_name]
  | code entries =>
    obtain ⟨ls, hls, hl⟩ := List.mem_flatten.1 hl
    obtain ⟨i, hi, rfl⟩ := List.mem_mapIdx.1 hls
    exact FuncBody.printable_lines _ indent i l hl

theorem closedLines_text (s : Section) : Text.closedLines s.text = (s.lines 0).map Line.plain :=
  Line.closedLines_renderAll (s.printable_lines 0)

theorem lines_succ (s : Section) (indent : Nat) :
    s.lines (indent + 1) = (s.lines indent).map Line.deeper := by
  cases s with
  | types entries => rw [lines, lines, map_mapIdx]; rfl
  | functions entries => rw [lines, lines, map_mapIdx]; rfl
  | exports entries => rw [lines, lines, List.map_map]; rfl
  | code entries =>
    have hbody : FuncBody.lines (indent + 1) =
        fun i fb => (FuncBody.lines indent i fb).map Line.deeper := by
      funext i fb
      simp [FuncBody.lines, FuncBody.header, closingLine, Line.deeper, fb.body.lines_succ]
    rw [lines, lines, List.map_flatten, map_mapIdx, hbody]

theorem renderAll_lines_one (s : Section) : Line.renderAll .uncoloured (s.lines 1) =
    String.join ((Text.closedLines s.text).map fun line => "  " ++ line ++ "\n") := by
  rw [Line.renderAll_uncoloured, closedLines_text, lines_succ, List.map_map, List.map_map,
    List.map_map]
  exact congrArg String.join (List.map_congr_left fun l _ => congrArg (· ++ "\n") l.plain_deeper)

end Section

/-- Lines up to each bracket that stands on a line of its own. -/
def bracketed (lines : List String) : List (List String) := (lines.splitOn ")").dropLast

namespace FuncBody

theorem plain_header (fb : FuncBody) (i : Nat) : (fb.header 0 i).plain =
    "(code (;" ++ toString i ++ ";)" ++ localsText fb.locals ++ " ;; " ++ toString fb.size.toNat
      ++ " bytes" := by
  rw [← String.toList_inj]
  simp [Line.plain_eq, header, plainPart, keywordPart, commentPart, indexText, Text.fill]

def block (i : Nat) (fb : FuncBody) : List String :=
  (fb.header 0 i).plain :: fb.body.code.map ("  " ++ ·)

theorem map_plain_lines (fb : FuncBody) (i : Nat) :
    (fb.lines 0 i).map Line.plain = fb.block i ++ [")"] := by
  have hcode : (fb.body.lines 1).map Line.plain = fb.body.code.map ("  " ++ ·) := by
    rw [Expr.code_eq, Expr.lines_succ, List.map_map, List.map_map]
    exact List.map_congr_left fun l _ => l.plain_deeper
  rw [lines, block, List.map_append, List.map_cons, hcode]
  rfl

theorem bracket_notMem_block (fb : FuncBody) (i : Nat) : ")" ∉ fb.block i := by
  intro h
  -- a header opens with a bracket of its own, and code stands behind two blanks
  rcases List.mem_cons.1 h with h | h
  · have hlist := congrArg String.toList (h.trans (fb.plain_header i))
    simp at hlist
  · obtain ⟨line, -, h⟩ := List.mem_map.1 h
    have hlist := congrArg String.toList h
    simp at hlist

end FuncBody

theorem bracketed_closedLines (entries : List FuncBody) :
    bracketed (Text.closedLines (Section.code entries).text) = entries.mapIdx FuncBody.block := by
  have hlines : ((Section.code entries).lines 0).map Line.plain =
      (entries.mapIdx FuncBody.block).flatMap (· ++ [")"]) := by
    rw [Section.lines, List.map_flatten, map_mapIdx, List.flatMap_def, map_mapIdx]
    simp only [FuncBody.map_plain_lines]
  rw [bracketed, Section.closedLines_text, hlines, Text.splitOn_closed, List.dropLast_concat]
  intro block hblock
  obtain ⟨i, hi, rfl⟩ := List.mem_mapIdx.1 hblock
  exact FuncBody.bracket_notMem_block _ i

namespace Module

theorem printable_lines (m : Module) : ∀ l ∈ m.lines, l.Printable := by
  intro l hl
  rcases List.mem_append.1 hl with hl | hl
  · rcases List.mem_cons.1 hl with rfl | hl
    · simp +decide [header, Line.Printable, plainPart, keywordPart, commentPart]
    · obtain ⟨ls, hls, hl⟩ := List.mem_flatten.1 hl
      obtain ⟨i, hi, rfl⟩ := List.mem_mapIdx.1 hls
      rcases List.mem_cons.1 hl with rfl | hl
      · simp +decide [sectionComment, Line.Printable, commentPart, SectionId.printable_name]
      · exact Section.printable_lines _ 1 l hl
  · rw [List.mem_singleton.1 hl]
    exact printable_closingLine 0

theorem plain_header (m : Module) :
    m.header.plain = "(module ;; version " ++ toString m.version.toNat := by
  rw [← String.toList_inj]
  simp [Line.plain_eq, header, plainPart, keywordPart, commentPart, Text.fill]

theorem plain_sectionComment (i : Nat) (s : Section) :
    (sectionComment i s).plain = "  ;; section " ++ toString i ++ ": " ++ s.id.name := by
  rw [← String.toList_inj]
  simp [Line.plain_eq, sectionComment, commentPart, Text.fill]

/-- The listing of a module holds the listings of its sections, two blanks further in, and the code
of a body in the document is what the listing of its section shows between the header of the body
and the bracket that closes it. -/
theorem text_agrees (m : Module) :
    m.text .uncoloured = "(module ;; version " ++ toString m.version.toNat ++ "\n" ++
        String.join (m.sections.mapIdx fun i s =>
          "  ;; section " ++ toString i ++ ": " ++ s.id.name ++ "\n" ++
            String.join ((Text.closedLines s.text).map fun line => "  " ++ line ++ "\n")) ++
        ")\n" ∧
      ∀ (k : Nat) (entries : List FuncBody) (j : Nat) (fb : FuncBody),
        m.sections[k]? = some (.code entries) → entries[j]? = some fb →
        ∃ (doc : SectionDocument) (body : BodyDocument),
          m.document.sections[k]? = some doc ∧ doc.bodies[j]? = some body ∧
            (bracketed (Text.closedLines (Section.code entries).text))[j]? =
              some (("(code (;" ++ toString j ++ ";)" ++ localsText fb.locals ++ " ;; "
                ++ toString fb.size.toNat ++ " bytes") :: body.code.map ("  " ++ ·)) := by
  constructor
  · have hsection (i : Nat) (s : Section) : Line.renderAll .uncoloured (sectionLines i s) =
        "  ;; section " ++ toString i ++ ": " ++ s.id.name ++ "\n" ++
          String.join ((Text.closedLines s.text).map fun line => "  " ++ line ++ "\n") := by
      rw [sectionLines, Line.renderAll_cons, ← Line.plain, plain_sectionComment,
        Section.renderAll_lines_one]
    rw [text, lines, Line.renderAll_append, Line.renderAll_cons, ← Line.plain, plain_header,
      Line.renderAll_flatten, map_mapIdx]
    simp only [hsection]
    rfl
  · intro k entries j fb hk hj
    refine ⟨(Section.code entries).document, fb.document, ?_, ?_, ?_⟩
    · rw [document, List.getElem?_map, hk]
      rfl
    · rw [Section.document, List.getElem?_map, hj]
      rfl
    · rw [bracketed_closedLines, List.getElem?_mapIdx, hj, ← fb.plain_header]
      rfl

/-- A name with a line break in front of the code, and a second body behind an empty one. -/
theorem text_agrees_two_bodies :
    let fb : FuncBody :=
      ⟨12, [⟨9, .i64⟩], .ofInstrs [.block .loop .empty (.ofInstrs [.const (-1)] .close)] .close⟩
    let entries : List FuncBody := [⟨2, [], .close .close⟩, fb]
    let m : Module := ⟨.magic, .version1, [.exports [⟨"a\nb", .func, 1⟩], .code entries]⟩
    m.sections[1]? = some (.code entries) ∧ entries[1]? = some fb ∧
      fb.body.code = ["loop", "  i32.const -1", "end"] ∧
      ∃ (doc : SectionDocument) (body : BodyDocument),
        m.document.sections[1]? = some doc ∧ doc.bodies[1]? = some body ∧
          (bracketed (Text.closedLines (Section.code entries).text))[1]? =
            some (("(code (;" ++ toString 1 ++ ";)" ++ localsText fb.locals ++ " ;; "
              ++ toString fb.size.toNat ++ " bytes") :: body.code.map ("  " ++ ·)) := by
  intro fb entries m
  have hcode : fb.body.code = ["loop", "  i32.const -1", "end"] := by
    rw [Expr.code_eq]
    decide +kernel
  exact ⟨rfl, rfl, hcode, (text_agrees m).2 1 entries 1 fb rfl rfl⟩

end Module

end WasmScope

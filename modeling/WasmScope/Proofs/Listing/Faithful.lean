import WasmScope.Proofs.Decode.Regular
import WasmScope.Proofs.Listing.Code
import WasmScope.Proofs.Listing.Signature

namespace WasmScope

namespace Text

theorem repr_nat_inj {n n' : Nat} (h : n.repr = n'.repr) : n = n' := by
  rw [Nat.repr_eq_ofList_toDigits, Nat.repr_eq_ofList_toDigits, String.ofList_inj] at h
  have hread := congrArg (Nat.ofDigitChars 10 · 0) h
  simpa only [Nat.ofDigitChars_ten_toDigits] using hread

theorem repr_int_inj {i i' : Int} (h : i.repr = i'.repr) : i = i' := by
  have hsign (n n' : Nat) : n.repr ≠ "-" ++ n'.repr := by
    intro h
    have hmem : '-' ∈ n.repr.toList := by
      rw [h]
      simp
    rw [Nat.repr_eq_ofList_toDigits, String.toList_ofList] at hmem
    cases Nat.isDigit_of_mem_toDigits (by decide) (by decide) hmem
  rw [Int.repr_eq_if, Int.repr_eq_if] at h
  split at h <;> split at h
  · have hnat := repr_nat_inj h
    omega
  · exact absurd h (hsign _ _)
  · exact absurd h.symm (hsign _ _)
  · have hnat := repr_nat_inj ((String.append_right_inj _).1 h)
    omega

end Text

theorem BlockType.Regular.text_inj {bt bt' : BlockType} (h : bt.Regular) (h' : bt'.Regular)
    (htext : bt.text = bt'.text) : bt = bt' := by
  have hempty {s t : String} (hs : s ≠ "") : s ++ t ≠ "" :=
    fun h => hs (String.append_eq_empty_iff.1 h).1
  have hkinds (s t : String) : "(result " ++ s ++ ")" ≠ "(type " ++ t ++ ")" := by
    intro h
    have hlist := congrArg String.toList h
    simp at hlist
  have hinner {opening s t : String} (h : opening ++ s ++ ")" = opening ++ t ++ ")") : s = t :=
    (String.append_right_inj _).1 ((String.append_left_inj _).1 h)
  cases h with
  | empty =>
    cases h' with
    | empty => rfl
    | value => exact absurd htext.symm (hempty (hempty (by decide)))
    | typeIndex => exact absurd htext.symm (hempty (hempty (by decide)))
  | value valid =>
    cases h' with
    | empty => exact absurd htext (hempty (hempty (by decide)))
    | value valid' => exact congrArg ofValue (ValType.name_inj valid valid' (hinner htext))
    | typeIndex => exact absurd htext (hkinds _ _)
  | typeIndex =>
    cases h' with
    | empty => exact absurd htext (hempty (hempty (by decide)))
    | value => exact absurd htext.symm (hkinds _ _)
    | typeIndex => exact congrArg ofIndex (Int32.toInt_inj.1 (Text.repr_int_inj (hinner htext)))

namespace Instr

def bare : Instr → Instr
  | block shape type _ => .block shape type .unset
  | cond type _ _ => .cond type .unset .unset
  | i => i

theorem Head.mnemonic_inj {h h' : Head} (heq : h.opcode.mnemonic = h'.opcode.mnemonic) :
    h = h' := by
  have hall : ∀ h ∈ all, ∀ h' ∈ all, h.opcode.mnemonic = h'.opcode.mnemonic → h = h' := by
    decide +kernel
  exact hall h h.mem_all h' h'.mem_all heq

theorem bare_inj_of_head {i i' : Instr} (h : i.Regular) (h' : i'.Regular) (hhead : i.head = i'.head)
    (hoperand : i.operand = i'.operand) : i.bare = i'.bare := by
  have hblank {s t : String} (h : " " ++ s = " " ++ t) : s = t := (String.append_right_inj _).1 h
  have hnat {n n' : UInt32} (h : " " ++ toString n.toNat = " " ++ toString n'.toNat) : n = n' :=
    UInt32.toNat_inj.1 (Text.repr_nat_inj (hblank h))
  have htype {bt bt' : BlockType} (h : bt.Regular) (h' : bt'.Regular)
      (heq : bt.suffix = bt'.suffix) : bt = bt' := by
    apply h.text_inj h'
    rw [BlockType.suffix, BlockType.suffix] at heq
    split at heq <;> split at heq
    · simp_all
    · simp at heq
    · simp at heq
    · exact hblank heq
  cases i <;> cases i' <;> cases hhead
  case localVar => exact congrArg (localVar _) (hnat hoperand)
  case const => exact congrArg const (Int32.toInt_inj.1 (Text.repr_int_inj (hblank hoperand)))
  case numeric => rfl
  case branch => exact congrArg (branch _) (hnat hoperand)
  case block => exact congrArg (block _ · .unset) (htype h.1 h'.1 hoperand)
  case cond => exact congrArg (cond · .unset .unset) (htype h.1 h'.1 hoperand)

/-- The line of an instruction tells it from every other, up to what is nested in it. -/
theorem Regular.text_inj {i i' : Instr} (h : i.Regular) (h' : i'.Regular) (htext : i.text = i'.text) :
    i.bare = i'.bare := by
  rw [text_eq, text_eq] at htext
  obtain ⟨hmnemonic, hoperand⟩ := Text.append_inj_of_trails i.opcode.isWord_mnemonic.blankFree
    i'.opcode.isWord_mnemonic.blankFree i.operand_trails i'.operand_trails htext
  rw [← opcode_head, ← opcode_head] at hmnemonic
  exact bare_inj_of_head h h' (Head.mnemonic_inj hmnemonic) hoperand

end Instr

def Instr.innerLines (indent : Nat) : Instr → List Line
  | .block _ _ body => body.lines (indent + 1) ++ [codeLine indent Opcode.close.mnemonic]
  | .cond _ thn els =>
    thn.lines (indent + 1)
      ++ (if hasElseBranch thn els then
            codeLine indent Opcode.otherwise.mnemonic :: els.lines (indent + 1)
          else [])
      ++ [codeLine indent Opcode.close.mnemonic]
  | .localVar _ _ | .const _ | .numeric _ | .branch _ _ => []

theorem Instr.lines_eq (i : Instr) (indent : Nat) :
    i.lines indent = codeLine indent i.text :: i.innerLines indent := by
  cases i <;> simp [lines, innerLines]

theorem Expr.lines_cons (head : Instr) (tail : Expr) (indent : Nat) :
    (cons head tail).lines indent =
      codeLine indent head.text :: (head.innerLines indent ++ tail.lines indent) := by
  rw [lines, Instr.lines_eq, List.cons_append]

theorem codeLine_inj {indent indent' : Nat} {s s' : String}
    (h : codeLine indent s = codeLine indent' s') : s = s' := by
  injection h with _ hparts
  injection hparts with hpart
  injection hpart

/-- No instruction stands in front: the lines are over, or an else or an end comes first. -/
def Closes (lines : List Line) : Prop :=
  ∀ l ∈ lines.head?, ∀ indent (i : Instr), l ≠ codeLine indent i.text

theorem closes_otherwise (indent : Nat) (rest : List Line) :
    Closes (codeLine indent Opcode.otherwise.mnemonic :: rest) := by
  rintro l ⟨⟩ indent' i h
  exact i.text_ne_marker.1 (codeLine_inj h).symm

theorem closes_close (indent : Nat) (rest : List Line) :
    Closes (codeLine indent Opcode.close.mnemonic :: rest) := by
  rintro l ⟨⟩ indent' i h
  exact i.text_ne_marker.2 (codeLine_inj h).symm

namespace Expr

def RegularInside (e : Expr) : Prop := ∀ i depth, e.Holds i depth → i.Regular

theorem RegularInside.head {i : Instr} {e : Expr} (h : (cons i e).RegularInside) : i.Regular :=
  h i 0 .head

theorem RegularInside.tail {i : Instr} {e : Expr} (h : (cons i e).RegularInside) :
    e.RegularInside :=
  fun j depth hj => h j depth (.tail hj)

theorem RegularInside.nested {i : Instr} {e part : Expr} (h : (cons i e).RegularInside)
    (hpart : part ∈ i.nested) : part.RegularInside :=
  fun j depth hj => h j (depth + 1) (.nested hpart hj)

theorem ofInstrs_instrs (e : Expr) : ofInstrs e.instrs e.terminator = e := by
  induction e using nestedInduction with
  | close t => rfl
  | cons head tail _ ih => exact congrArg (cons head) ih

theorem eq_of_instrs {e e' : Expr} (h : e.instrs = e'.instrs)
    (hterminator : e.terminator = e'.terminator) : e = e' := by
  rw [← e.ofInstrs_instrs, ← e'.ofInstrs_instrs, h, hterminator]

/-- The lines of the two expressions show the same instructions and end at the same place, whatever
closes them. -/
def LinesTell (indent : Nat) (e e' : Expr) : Prop :=
  ∀ rest rest', Closes rest → Closes rest' → e.lines indent ++ rest = e'.lines indent ++ rest' →
    e.instrs = e'.instrs ∧ rest = rest'

end Expr

namespace Instr

theorem innerLines_cond {type : BlockType} {thn els : Expr} (h : (cond type thn els).Regular)
    (indent : Nat) :
    (thn.terminator = .close ∧ els = .unset ∧ (cond type thn els).innerLines indent =
        thn.lines (indent + 1) ++ [codeLine indent Opcode.close.mnemonic]) ∨
      (thn.terminator = .otherwise ∧ els.terminator = .close ∧
        (cond type thn els).innerLines indent = thn.lines (indent + 1) ++
          codeLine indent Opcode.otherwise.mnemonic ::
            (els.lines (indent + 1) ++ [codeLine indent Opcode.close.mnemonic])) := by
  rcases h.2 with ⟨hthn, hels⟩ | ⟨hthn, hels⟩
  · have hbranch : hasElseBranch thn els = false := by
      rw [hasElseBranch, hthn, hels]
      rfl
    refine .inl ⟨hthn, hels, ?_⟩
    simp [innerLines, hbranch]
  · have hbranch : hasElseBranch thn els = true := by
      rw [hasElseBranch, hthn]
      rfl
    refine .inr ⟨hthn, hels, ?_⟩
    simp [innerLines, hbranch]

theorem innerLines_inj {i i' : Instr} {indent : Nat} {rest rest' : List Line} (h : i.Regular)
    (h' : i'.Regular) (hbare : i.bare = i'.bare)
    (ih : ∀ e ∈ i.nested, ∀ e' ∈ i'.nested, e.LinesTell (indent + 1) e')
    (heq : i.innerLines indent ++ rest = i'.innerLines indent ++ rest') :
    i = i' ∧ rest = rest' := by
  cases i <;> cases i' <;> cases hbare
  case localVar => exact ⟨rfl, heq⟩
  case const => exact ⟨rfl, heq⟩
  case numeric => exact ⟨rfl, heq⟩
  case branch => exact ⟨rfl, heq⟩
  case block body body' =>
    simp only [innerLines, List.append_assoc, List.cons_append, List.nil_append] at heq
    obtain ⟨hbody, hrest⟩ := ih body (by simp [nested]) body' (by simp [nested]) _ _
      (closes_close _ _) (closes_close _ _) heq
    rw [Expr.eq_of_instrs hbody (h.2.trans h'.2.symm)]
    exact ⟨rfl, (List.cons.inj hrest).2⟩
  case cond thn els thn' els' =>
    have hthn := ih thn (by simp [nested]) thn' (by simp [nested])
    have hels := ih els (by simp [nested]) els' (by simp [nested])
    have hmarkers : codeLine indent Opcode.close.mnemonic ≠
        codeLine indent Opcode.otherwise.mnemonic := by
      intro h
      exact absurd (codeLine_inj h) (by decide)
    rcases innerLines_cond h indent with ⟨ht, rfl, hl⟩ | ⟨ht, he, hl⟩ <;>
      rcases innerLines_cond h' indent with ⟨ht', rfl, hl'⟩ | ⟨ht', he', hl'⟩ <;>
      rw [hl, hl'] at heq <;>
      simp only [List.append_assoc, List.cons_append, List.nil_append] at heq
    · obtain ⟨hinstrs, hrest⟩ := hthn _ _ (closes_close _ _) (closes_close _ _) heq
      rw [Expr.eq_of_instrs hinstrs (ht.trans ht'.symm)]
      exact ⟨rfl, (List.cons.inj hrest).2⟩
    · obtain ⟨-, hrest⟩ := hthn _ _ (closes_close _ _) (closes_otherwise _ _) heq
      exact absurd (List.cons.inj hrest).1 hmarkers
    · obtain ⟨-, hrest⟩ := hthn _ _ (closes_otherwise _ _) (closes_close _ _) heq
      exact absurd (List.cons.inj hrest).1.symm hmarkers
    · obtain ⟨hinstrs, hrest⟩ := hthn _ _ (closes_otherwise _ _) (closes_otherwise _ _) heq
      obtain ⟨hinstrs', hrest⟩ := hels _ _ (closes_close _ _) (closes_close _ _)
        (List.cons.inj hrest).2
      rw [Expr.eq_of_instrs hinstrs (ht.trans ht'.symm),
        Expr.eq_of_instrs hinstrs' (he.trans he'.symm)]
      exact ⟨rfl, (List.cons.inj hrest).2⟩

end Instr

namespace Expr

theorem linesTell_of_regular {e e' : Expr} (h : e.RegularInside) (h' : e'.RegularInside)
    (indent : Nat) : e.LinesTell indent e' := by
  induction e using nestedInduction generalizing e' indent with
  | close t =>
    intro rest rest' hrest hrest' heq
    cases e' with
    | close t' => exact ⟨rfl, heq⟩
    | cons head' tail' =>
      rw [lines_cons] at heq
      exact absurd rfl (hrest _ (congrArg List.head? heq) indent head')
  | cons head tail ihnested ihtail =>
    intro rest rest' hrest hrest' heq
    cases e' with
    | close t' =>
      rw [lines_cons] at heq
      exact absurd rfl (hrest' _ (congrArg List.head? heq.symm) indent head)
    | cons head' tail' =>
      simp only [lines_cons, List.cons_append, List.append_assoc] at heq
      obtain ⟨hline, hinner⟩ := List.cons.inj heq
      have hbare := h.head.text_inj h'.head (codeLine_inj hline)
      obtain ⟨rfl, htail⟩ := Instr.innerLines_inj h.head h'.head hbare
        (fun e he e' he' => ihnested e he (h.nested he) (h'.nested he') (indent + 1)) hinner
      obtain ⟨hinstrs, hrest⟩ := ihtail h.tail h'.tail indent _ _ hrest hrest' htail
      exact ⟨congrArg (List.cons head) hinstrs, hrest⟩

theorem lines_inj_of_plain {e e' : Expr} {indent : Nat}
    (h : (e.lines indent).map Line.plain = (e'.lines indent).map Line.plain) :
    e.lines indent = e'.lines indent := by
  have hback (e : Expr) : ((e.lines indent).map Line.plain).map
      (fun s => codeLine (Text.unindented s).1 (Text.unindented s).2) = e.lines indent := by
    rw [List.map_map]
    apply (List.map_congr_left _).trans (List.map_id _)
    intro l hl
    obtain ⟨n, s, -, hs, rfl⟩ := mem_lines hl
    rw [Function.comp, hs.unindented, id]
  rw [← hback e, h, hback e']

theorem written_of_decode {limit : Nat} {code : List UInt8} {e : Expr}
    (h : Expr.decode limit code = .ok e) : ∃ room bs, Written room .close bs e := by
  rw [decode] at h
  split at h
  · cases h
  · next hread =>
    split at h
    · cases h
      obtain ⟨bs, hw, -⟩ := (Reader.reads_closedExpr _ _ _ _).1 hread
      exact ⟨_, bs, hw⟩
    · cases h

/-- Expressions that decoding gives are the same if their code reads the same, whatever they were
decoded from. -/
theorem eq_of_code_eq {limit limit' : Nat} {code code' : List UInt8} {e e' : Expr}
    (h : Expr.decode limit code = .ok e) (h' : Expr.decode limit' code' = .ok e')
    (hcode : e.code = e'.code) : e = e' := by
  obtain ⟨_, _, hw⟩ := written_of_decode h
  obtain ⟨_, _, hw'⟩ := written_of_decode h'
  have hlines : e.lines 0 ++ [] = e'.lines 0 ++ [] := by
    rw [code_eq, code_eq] at hcode
    rw [lines_inj_of_plain hcode]
  have hend : Closes [] := nofun
  obtain ⟨hinstrs, -⟩ := linesTell_of_regular (fun _ _ hi => (hw.regular hi).1)
    (fun _ _ hi => (hw'.regular hi).1) 0 _ _ hend hend hlines
  exact eq_of_instrs hinstrs (hw.terminator_eq.trans hw'.terminator_eq.symm)

/-- An empty else branch and a negative constant, the constant once in one byte and once in two. -/
theorem eq_of_code_eq_padded :
    let code : List UInt8 := [0x04, 0x7F, 0x02, 0x05, 0x0B, 0x05, 0x0B, 0x41, 0x7B, 0x0B]
    let code' : List UInt8 := [0x04, 0x7F, 0x02, 0x05, 0x0B, 0x05, 0x0B, 0x41, 0xFB, 0x7F, 0x0B]
    let cond : Instr := .cond (.ofValue .i32)
      (.ofInstrs [.block .block (.ofIndex 5) (.close .close)] .otherwise) (.close .close)
    let e : Expr := .ofInstrs [cond, .const (-5)] .close
    let e' : Expr := .cons cond (.cons (.const (-5)) (.close .close))
    Expr.decode 2 code = .ok e ∧ Expr.decode 7 code' = .ok e' ∧
      e.code = ["if (result i32)", "  block (type 5)", "  end", "else", "end", "i32.const -5"] ∧
      e.code = e'.code ∧ e = e' := by
  intro code code' cond e e'
  have h : Expr.decode 2 code = .ok e := by decide +kernel
  have h' : Expr.decode 7 code' = .ok e' := by decide +kernel
  have hlisted : e.code = ["if (result i32)", "  block (type 5)", "  end", "else", "end",
      "i32.const -5"] := by
    rw [code_eq]
    decide +kernel
  exact ⟨h, h', hlisted, rfl, eq_of_code_eq h h' rfl⟩

end Expr

end WasmScope

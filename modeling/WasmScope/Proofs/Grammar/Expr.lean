import WasmScope.Proofs.Grammar.Visit

namespace WasmScope

namespace Decode

/-- The bytes that lead to a pending state: instructions at every level, each level but the
outermost behind the opcode and the type of the instruction it belongs to. -/
inductive Opened : Nat → List UInt8 → Pending → Prop
  | start {room : Nat} {bs : List UInt8} {done : List Instr}
      (code : Instr.Code room bs done.reverse) : Opened room bs ⟨[], done⟩
  | block {room : Nat} {bs ts cs : List UInt8} {t : BlockType} {frames : List Frame}
      {before done : List Instr} (shape : BlockShape)
      (outer : Opened (room + 1) bs ⟨frames, before⟩) (type : BlockType.Written ts t)
      (code : Instr.Code room cs done.reverse) :
      Opened room (bs ++ shape.opcode.code :: (ts ++ cs)) ⟨.block shape t before :: frames, done⟩
  | thenBranch {room : Nat} {bs ts cs : List UInt8} {t : BlockType} {frames : List Frame}
      {before done : List Instr} (outer : Opened (room + 1) bs ⟨frames, before⟩)
      (type : BlockType.Written ts t) (code : Instr.Code room cs done.reverse) :
      Opened room (bs ++ Opcode.cond.code :: (ts ++ cs)) ⟨.thenBranch t before :: frames, done⟩
  | elseBranch {room : Nat} {bs ts cs es : List UInt8} {t : BlockType} {frames : List Frame}
      {is before done : List Instr} (outer : Opened (room + 1) bs ⟨frames, before⟩)
      (type : BlockType.Written ts t) (thn : Instr.Code room cs is)
      (code : Instr.Code room es done.reverse) :
      Opened room (bs ++ Opcode.cond.code :: (ts ++ (cs ++ Opcode.otherwise.code :: es)))
        ⟨.elseBranch t (.ofInstrs is .otherwise) before :: frames, done⟩

theorem Opened.append {room : Nat} {bs cs : List UInt8} {p : Pending} {is : List Instr}
    (h : Opened room bs p) (hc : Instr.Code room cs is) :
    Opened room (bs ++ cs) ⟨p.frames, is.reverse ++ p.done⟩ := by
  have hdone {es : List UInt8} {done : List Instr} (h : Instr.Code room es done.reverse) :
      Instr.Code room (es ++ cs) (is.reverse ++ done).reverse := by
    rw [List.reverse_append, List.reverse_reverse]
    exact h.append hc
  cases h with
  | start code => exact .start (hdone code)
  | block shape outer type code =>
    simpa only [List.append_assoc, List.cons_append] using .block shape outer type (hdone code)
  | thenBranch outer type code =>
    simpa only [List.append_assoc, List.cons_append] using .thenBranch outer type (hdone code)
  | elseBranch outer type thn code =>
    simpa only [List.append_assoc, List.cons_append] using .elseBranch outer type thn (hdone code)

/-- What the bytes read so far have to do with the progress made. -/
def Covers (nesting : Nesting) (bs : List UInt8) : Progress → Prop
  | .more p => ∃ room, Opened room bs p ∧ p.frames.length + room = nesting.room
  | .closed e => Expr.Written nesting.room .close bs e ∨ Expr.Written nesting.room .otherwise bs e

theorem Opened.close {nesting : Nesting} {room : Nat} {bs : List UInt8} {p : Pending}
    (h : Opened room bs p) (hroom : p.frames.length + room = nesting.room) :
    Covers nesting (bs ++ [Opcode.close.code]) p.close := by
  have hout {frame : Frame} {frames : List Frame}
      (hroom : (frame :: frames).length + room = nesting.room) :
      frames.length + (room + 1) = nesting.room := by
    rw [List.length_cons] at hroom
    omega
  cases h with
  | start code =>
    obtain rfl : room = nesting.room := by simpa using hroom
    refine .inl ?_
    rw [Expr.ofReversed_eq]
    exact .mk code
  | block shape outer type code =>
    refine ⟨room + 1, ?_, hout hroom⟩
    rw [Expr.ofReversed_eq]
    simpa using outer.append (.block shape type code .nil)
  | thenBranch outer type code =>
    refine ⟨room + 1, ?_, hout hroom⟩
    rw [Expr.ofReversed_eq]
    simpa using outer.append (.cond type code .nil)
  | elseBranch outer type thn code =>
    refine ⟨room + 1, ?_, hout hroom⟩
    rw [Expr.ofReversed_eq]
    simpa using outer.append (.condElse type thn code .nil)

theorem Opened.otherwise {nesting : Nesting} {room : Nat} {bs : List UInt8} {p : Pending}
    {g : Progress} (h : Opened room bs p) (hroom : p.frames.length + room = nesting.room)
    (hg : p.otherwise = some g) : Covers nesting (bs ++ [Opcode.otherwise.code]) g := by
  cases h with
  | start code =>
    obtain rfl : room = nesting.room := by simpa using hroom
    cases hg
    refine .inr ?_
    rw [Expr.ofReversed_eq]
    exact .mk code
  | block shape outer type code => cases hg
  | thenBranch outer type code =>
    cases hg
    refine ⟨room, ?_, hroom⟩
    rw [Expr.ofReversed_eq]
    simpa using Opened.elseBranch outer type code .nil
  | elseBranch outer type thn code => cases hg

theorem Opened.move {nesting : Nesting} {room : Nat} {bs b : List UInt8} {p : Pending}
    {g : Progress} (h : Opened room bs p) (hroom : p.frames.length + room = nesting.room)
    (hm : Move nesting p b g) : Covers nesting (bs ++ b) g := by
  cases hm with
  | @plain b i instr =>
    refine ⟨room, ?_, hroom⟩
    simpa [Pending.push] using h.append (.plain instr .nil)
  | @opening code frame ts t opens fits type =>
    obtain ⟨room', rfl⟩ : ∃ room', room = room' + 1 := by
      rw [Nesting.room] at hroom
      exact ⟨room - 1, by omega⟩
    have hnil : Instr.Code room' [] (List.reverse []) := .nil
    refine ⟨room', ?_, ?_⟩
    · cases opens with
      | block shape => simpa [Pending.enter] using Opened.block shape h type hnil
      | cond => simpa [Pending.enter] using Opened.thenBranch h type hnil
    · rw [Pending.enter, List.length_cons]
      omega
  | close => exact h.close hroom
  | otherwise parts => exact h.otherwise hroom parts

theorem resume_covers {nesting : Nesting} {p : Pending} {c rest : Cursor} {e : Expr}
    (hr : resume nesting p c = .ok (e, rest)) {room : Nat} {bs : List UInt8}
    (h : Opened room bs p) (hroom : p.frames.length + room = nesting.room) :
    ∃ b, Covers nesting (bs ++ b) (.closed e) ∧ c.Spans b rest := by
  fun_induction resume nesting p c generalizing room bs with
  | case1 p c d hstep => cases hr
  | case2 p c e' rest' hstep =>
    cases hr
    obtain ⟨b, hm, hs⟩ := (reads_step nesting p c _ _).1 hstep
    exact ⟨b, h.move hroom hm, hs⟩
  | case3 p c p' mid hstep hlt ih =>
    obtain ⟨b, hm, hs⟩ := (reads_step nesting p c _ _).1 hstep
    -- the step extends the derivation of what was read before it, and the rest of the run that one
    obtain ⟨room', h', hroom'⟩ := h.move hroom hm
    obtain ⟨b', hb', hs'⟩ := ih hr h' hroom'
    refine ⟨b ++ b', ?_, hs.append hs'⟩
    rw [← List.append_assoc]
    exact hb'

end Decode

namespace Reader

theorem reads_expr (nesting : Decode.Nesting) :
    Reads (expr nesting) fun bs e =>
      Expr.Written nesting.room .close bs e ∨ Expr.Written nesting.room .otherwise bs e := by
  intro c e rest
  constructor
  · intro h
    exact Decode.resume_covers h (.start .nil) (Nat.zero_add _)
  · intro hw
    obtain ⟨bs, he, hs⟩ := hw
    have hrun {t : Opcode} (he : Expr.Written nesting.room t bs e)
        (hm : ∀ is, Decode.Move nesting ⟨[], is.reverse⟩ [t.code] (.closed (.ofInstrs is t))) :
        expr nesting c = .ok (e, rest) := by
      cases he with
      | @mk bs is code =>
        obtain ⟨mid, hcode, hend⟩ := hs.split
        obtain ⟨visits, hvisits, hclear⟩ := Instr.code_iff_laid.1 code
        rw [expr, Decode.runs_laid nesting hvisits .start c mid rfl rfl hcode,
          Decode.answerTo_of_clear hclear, Decode.Pending.start, List.append_nil]
        exact Decode.resume_closed (hm is) hend
    rcases he with he | he
    · apply hrun he
      intro is
      rw [← Expr.ofReversed_reverse]
      exact .close
    · apply hrun he
      intro is
      rw [← Expr.ofReversed_reverse]
      exact .otherwise rfl

theorem reads_closedExpr (nesting : Decode.Nesting) :
    Reads (closedExpr nesting) (Expr.Written nesting.room .close) := by
  have hcheck (e : Expr) : Reads (do
      let position ← position
      if e.terminator = .otherwise then fail (.unexpectedElse (position - 1)) else pure e)
      fun bs e' => e.terminator ≠ .otherwise ∧ bs = [] ∧ e' = e := by
    apply reads_position_bind
    intro position
    rw [← ite_not]
    exact reads_guard (e.terminator ≠ .otherwise) fun _ => reads_pure e
  apply ((reads_expr nesting).bind hcheck).congr
  intro bs e
  constructor
  · intro h
    obtain ⟨e, front, back, he | he, ⟨ht, rfl, rfl⟩, rfl⟩ := h
    · rwa [List.append_nil]
    · obtain ⟨code⟩ := he
      exact absurd (Expr.terminator_ofInstrs _ _) ht
  · intro h
    obtain ⟨code⟩ := h
    refine ⟨_, _, [], .inl ⟨code⟩, ⟨?_, rfl, rfl⟩, (List.append_nil _).symm⟩
    rw [Expr.terminator_ofInstrs]
    decide

end Reader

end WasmScope

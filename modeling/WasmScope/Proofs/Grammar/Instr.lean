import WasmScope.Decode.Expr
import WasmScope.Proofs.Grammar.Types

namespace WasmScope

inductive Instr.Plain : Format Instr
  | localVar {bs : List UInt8} {n : UInt32} (access : LocalAccess)
      (index : Leb128.Unsigned bs n) : Plain (access.opcode.code :: bs) (.localVar access n)
  | const {bs : List UInt8} {n : Int32} (value : Leb128.Signed bs n) :
      Plain (Opcode.i32Const.code :: bs) (.const n)
  | numeric (op : NumericOp) : Plain [op.opcode.code] (.numeric op)
  | branch {bs : List UInt8} {n : UInt32} (mode : BranchMode) (label : Leb128.Unsigned bs n) :
      Plain (mode.opcode.code :: bs) (.branch mode n)

/-- Instructions one after another, with at most `room` structured ones around each other. A block
or loop goes up to its end, a conditional up to its end or to an else and then an end. -/
inductive Instr.Code : Nat → Format (List Instr)
  | nil {room : Nat} : Code room [] []
  | plain {room : Nat} {front back : List UInt8} {i : Instr} {is : List Instr}
      (head : Plain front i) (tail : Code room back is) : Code room (front ++ back) (i :: is)
  | block {room : Nat} {ts bs back : List UInt8} {t : BlockType} {is js : List Instr}
      (shape : BlockShape) (type : BlockType.Written ts t) (body : Code room bs is)
      (tail : Code (room + 1) back js) :
      Code (room + 1) (shape.opcode.code :: (ts ++ (bs ++ Opcode.close.code :: back)))
        (.block shape t (.ofInstrs is .close) :: js)
  | cond {room : Nat} {ts bs back : List UInt8} {t : BlockType} {is js : List Instr}
      (type : BlockType.Written ts t) (thn : Code room bs is) (tail : Code (room + 1) back js) :
      Code (room + 1) (Opcode.cond.code :: (ts ++ (bs ++ Opcode.close.code :: back)))
        (.cond t (.ofInstrs is .close) .unset :: js)
  | condElse {room : Nat} {ts bs es back : List UInt8} {t : BlockType} {is is' js : List Instr}
      (type : BlockType.Written ts t) (thn : Code room bs is) (els : Code room es is')
      (tail : Code (room + 1) back js) :
      Code (room + 1)
        (Opcode.cond.code ::
          (ts ++ (bs ++ Opcode.otherwise.code :: (es ++ Opcode.close.code :: back))))
        (.cond t (.ofInstrs is .otherwise) (.ofInstrs is' .close) :: js)

/-- Instructions and the byte that closes them. -/
inductive Expr.Written (room : Nat) (t : Opcode) : Format Expr
  | mk {bs : List UInt8} {is : List Instr} (code : Instr.Code room bs is) :
      Written room t (bs ++ [t.code]) (.ofInstrs is t)

theorem Instr.Code.append {room : Nat} {bs bs' : List UInt8} {is is' : List Instr}
    (h : Code room bs is) (h' : Code room bs' is') : Code room (bs ++ bs') (is ++ is') := by
  induction h with
  | nil => exact h'
  | plain head tail ih =>
    rw [List.append_assoc]
    exact .plain head (ih h')
  | block shape type body tail _ ih =>
    simpa only [List.append_assoc, List.cons_append] using .block shape type body (ih h')
  | cond type thn tail _ ih =>
    simpa only [List.append_assoc, List.cons_append] using .cond type thn (ih h')
  | condElse type thn els tail _ _ ih =>
    simpa only [List.append_assoc, List.cons_append] using .condElse type thn els (ih h')

namespace Expr

@[simp] theorem ofInstrs_cons (i : Instr) (is : List Instr) (t : Opcode) :
    ofInstrs (i :: is) t = .cons i (ofInstrs is t) := rfl

@[simp] theorem terminator_ofInstrs (is : List Instr) (t : Opcode) :
    (ofInstrs is t).terminator = t := by
  induction is with
  | nil => rfl
  | cons i is ih => exact ih

theorem Written.terminator_eq {room : Nat} {t : Opcode} {bs : List UInt8} {e : Expr}
    (h : Written room t bs e) : e.terminator = t := by
  obtain ⟨_⟩ := h
  exact terminator_ofInstrs _ t

theorem Written.length_pos {room : Nat} {t : Opcode} {bs : List UInt8} {e : Expr}
    (h : Written room t bs e) : 0 < bs.length := by
  obtain ⟨_⟩ := h
  simp

@[simp] theorem instrs_ofInstrs (is : List Instr) (t : Opcode) : (ofInstrs is t).instrs = is := by
  induction is with
  | nil => rfl
  | cons i is ih => exact congrArg (List.cons i) ih

@[simp] theorem ofReversed_reverse (is : List Instr) (t : Opcode) :
    ofReversed is.reverse t = ofInstrs is t := by
  rw [ofReversed, List.foldl_reverse]
  rfl

theorem ofReversed_eq (done : List Instr) (t : Opcode) :
    ofReversed done t = ofInstrs done.reverse t := by
  rw [← ofReversed_reverse, List.reverse_reverse]

end Expr

namespace Decode

inductive Opening : UInt8 → (BlockType → List Instr → Frame) → Prop
  | block (shape : BlockShape) : Opening shape.opcode.code (.block shape)
  | cond : Opening Opcode.cond.code .thenBranch

/-- What one step can do. -/
inductive Move (nesting : Nesting) (p : Pending) : Format Progress
  | plain {bs : List UInt8} {i : Instr} (instr : Instr.Plain bs i) :
      Move nesting p bs (.more (p.push i))
  | opening {code : UInt8} {frame : BlockType → List Instr → Frame} {ts : List UInt8}
      {t : BlockType} (opens : Opening code frame)
      (fits : nesting.outer + p.frames.length < nesting.limit) (type : BlockType.Written ts t) :
      Move nesting p (code :: ts) (.more (p.enter (frame t)))
  | close : Move nesting p [Opcode.close.code] p.close
  | otherwise {g : Progress} (parts : p.otherwise = some g) :
      Move nesting p [Opcode.otherwise.code] g

def Form.Follows (nesting : Nesting) (p : Pending) : Form → Format Progress
  | .simple i => fun bs g => bs = [] ∧ g = .more (p.push i)
  | .indexed make => fun bs g => ∃ n, Leb128.Unsigned bs n ∧ g = .more (p.push (make n))
  | .constant make => fun bs g => ∃ n, Leb128.Signed bs n ∧ g = .more (p.push (make n))
  | .opening frame => fun bs g => nesting.outer + p.frames.length < nesting.limit ∧
      ∃ t, BlockType.Written bs t ∧ g = .more (p.enter (frame t))
  | .otherwise => fun bs g => bs = [] ∧ p.otherwise = some g
  | .close => fun bs g => bs = [] ∧ g = p.close
  | .undefined => fun _ _ => False

theorem reads_immediates (nesting : Nesting) (p : Pending) (position : Nat) (code : UInt8) :
    Reader.Reads (immediates nesting p position code) ((form code).Follows nesting p) := by
  unfold immediates
  cases form code with
  | simple i => exact Reader.reads_pure _
  | indexed make => exact Reader.reads_u32.bind_pure _
  | constant make => exact Reader.reads_s32.bind_pure _
  | opening frame =>
    dsimp only
    split
    · next hle =>
      apply (Reader.reads_fail _).congr
      intro bs g
      exact iff_of_false id fun h => Nat.not_lt.2 hle h.1
    · next hlt =>
      apply (Reader.reads_blockType.bind_pure _).congr
      intro bs g
      exact (and_iff_right (Nat.not_le.1 hlt)).symm
  | otherwise =>
    dsimp only
    split
    · next g hg =>
      apply (Reader.reads_pure g).congr
      intro bs g'
      apply and_congr_right
      intro _
      rw [hg, Option.some.injEq, eq_comm]
    · next hg =>
      apply (Reader.reads_fail _).congr
      intro bs g'
      apply iff_of_false id
      intro h
      cases hg.symm.trans h.2
  | close => exact Reader.reads_pure _
  | undefined => exact Reader.reads_fail _

theorem move_cons_iff {nesting : Nesting} {p : Pending} {code : UInt8} {bs : List UInt8}
    {g : Progress} : Move nesting p (code :: bs) g ↔ (form code).Follows nesting p bs g := by
  constructor
  · intro h
    generalize hb : code :: bs = b at h
    cases h with
    | plain instr =>
      cases instr with
      | localVar access index =>
        obtain ⟨rfl, rfl⟩ := List.cons.inj hb
        cases access <;> exact ⟨_, index, rfl⟩
      | const value =>
        obtain ⟨rfl, rfl⟩ := List.cons.inj hb
        exact ⟨_, value, rfl⟩
      | numeric op =>
        obtain ⟨rfl, rfl⟩ := List.cons.inj hb
        cases op <;> exact ⟨rfl, rfl⟩
      | branch mode label =>
        obtain ⟨rfl, rfl⟩ := List.cons.inj hb
        cases mode <;> exact ⟨_, label, rfl⟩
    | opening opens fits type =>
      obtain ⟨rfl, rfl⟩ := List.cons.inj hb
      cases opens with
      | block shape => cases shape <;> exact ⟨fits, _, type, rfl⟩
      | cond => exact ⟨fits, _, type, rfl⟩
    | close =>
      obtain ⟨rfl, rfl⟩ := List.cons.inj hb
      exact ⟨rfl, rfl⟩
    | otherwise parts =>
      obtain ⟨rfl, rfl⟩ := List.cons.inj hb
      exact ⟨rfl, parts⟩
  · intro h
    unfold form at h
    split at h
    · obtain ⟨fits, t, type, rfl⟩ := h
      exact .opening (.block .block) fits type
    · obtain ⟨fits, t, type, rfl⟩ := h
      exact .opening (.block .loop) fits type
    · obtain ⟨fits, t, type, rfl⟩ := h
      exact .opening .cond fits type
    · obtain ⟨rfl, parts⟩ := h
      exact .otherwise parts
    · obtain ⟨rfl, rfl⟩ := h
      exact .close
    · obtain ⟨n, hn, rfl⟩ := h
      exact .plain (.branch .always hn)
    · obtain ⟨n, hn, rfl⟩ := h
      exact .plain (.branch .onTrue hn)
    · obtain ⟨n, hn, rfl⟩ := h
      exact .plain (.localVar .get hn)
    · obtain ⟨n, hn, rfl⟩ := h
      exact .plain (.localVar .set hn)
    · obtain ⟨n, hn, rfl⟩ := h
      exact .plain (.const hn)
    · obtain ⟨rfl, rfl⟩ := h
      exact .plain (.numeric .eqz)
    · obtain ⟨rfl, rfl⟩ := h
      exact .plain (.numeric .eq)
    · obtain ⟨rfl, rfl⟩ := h
      exact .plain (.numeric .ltS)
    · obtain ⟨rfl, rfl⟩ := h
      exact .plain (.numeric .geS)
    · obtain ⟨rfl, rfl⟩ := h
      exact .plain (.numeric .add)
    · obtain ⟨rfl, rfl⟩ := h
      exact .plain (.numeric .remS)
    · exact h.elim

theorem Move.ne_nil {nesting : Nesting} {p : Pending} {bs : List UInt8} {g : Progress}
    (h : Move nesting p bs g) : bs ≠ [] := by
  cases h with
  | plain instr => cases instr <;> exact List.cons_ne_nil _ _
  | opening => exact List.cons_ne_nil _ _
  | close => exact List.cons_ne_nil _ _
  | otherwise => exact List.cons_ne_nil _ _

theorem reads_step (nesting : Nesting) (p : Pending) :
    Reader.Reads (step nesting p) (Move nesting p) := by
  refine (Reader.reads_position_bind fun position => Reader.reads_byte_bind fun code =>
    reads_immediates nesting p position code).congr fun bs g => ?_
  constructor
  · intro hw
    obtain ⟨code, back, rfl, h⟩ := hw
    exact move_cons_iff.2 h
  · intro h
    obtain ⟨code, back, rfl⟩ := List.exists_cons_of_ne_nil h.ne_nil
    exact ⟨code, back, rfl, move_cons_iff.1 h⟩

theorem resume_more {nesting : Nesting} {p p' : Pending} {bs : List UInt8} {c rest : Cursor}
    (h : Move nesting p bs (.more p')) (hs : c.Spans bs rest) :
    resume nesting p c = resume nesting p' rest := by
  have hstep := (reads_step nesting p c _ rest).2 ⟨bs, h, hs⟩
  rw [resume]
  split
  · next he => cases hstep.symm.trans he
  · next he => cases hstep.symm.trans he
  · next he =>
    cases hstep.symm.trans he
    rfl

theorem resume_closed {nesting : Nesting} {p : Pending} {e : Expr} {bs : List UInt8}
    {c rest : Cursor} (h : Move nesting p bs (.closed e)) (hs : c.Spans bs rest) :
    resume nesting p c = .ok (e, rest) := by
  have hstep := (reads_step nesting p c _ rest).2 ⟨bs, h, hs⟩
  rw [resume]
  split
  · next he => cases hstep.symm.trans he
  · next he =>
    cases hstep.symm.trans he
    rfl
  · next he => cases hstep.symm.trans he

theorem resume_error {nesting : Nesting} {p : Pending} {c : Cursor} {d : Defect}
    (h : step nesting p c = .error d) : resume nesting p c = .error d := by
  rw [resume]
  split
  · next he =>
    cases h.symm.trans he
    rfl
  · next he => cases h.symm.trans he
  · next he => cases h.symm.trans he

theorem step_cons {nesting : Nesting} {p : Pending} {c : Cursor} {code : UInt8}
    {after : List UInt8} (hc : c.unread = code :: after) :
    step nesting p c = immediates nesting p c.position code ⟨c.position + 1, after⟩ := by
  obtain ⟨position, unread⟩ := c
  dsimp only at hc
  rw [hc]
  rfl

theorem Opening.form_eq {code : UInt8} {frame : BlockType → List Instr → Frame}
    (h : Opening code frame) : form code = .opening frame := by
  cases h with
  | block shape => cases shape <;> rfl
  | cond => rfl

/-- The depth of an instruction is checked before anything behind its opcode is read. -/
theorem resume_refused {nesting : Nesting} {p : Pending} {c rest : Cursor} {code : UInt8}
    {bs : List UInt8} {frame : BlockType → List Instr → Frame} (opens : Opening code frame)
    (hfull : nesting.limit ≤ nesting.outer + p.frames.length) (hs : c.Spans (code :: bs) rest) :
    resume nesting p c = .error (.nestingTooDeep c.position nesting.limit) := by
  apply resume_error
  rw [step_cons hs.unread, immediates, opens.form_eq]
  exact congrFun (if_pos hfull) _

def Nesting.room (nesting : Nesting) : Nat := nesting.limit - nesting.outer

theorem Move.close_frame (nesting : Nesting) (p : Pending) (is : List Instr) :
    (∀ shape t, Move nesting ⟨.block shape t p.done :: p.frames, is.reverse⟩ [Opcode.close.code]
      (.more (p.push (.block shape t (.ofInstrs is .close))))) ∧
    (∀ t, Move nesting ⟨.thenBranch t p.done :: p.frames, is.reverse⟩ [Opcode.close.code]
      (.more (p.push (.cond t (.ofInstrs is .close) .unset)))) ∧
    (∀ t thn, Move nesting ⟨.elseBranch t thn p.done :: p.frames, is.reverse⟩
      [Opcode.close.code] (.more (p.push (.cond t thn (.ofInstrs is .close))))) := by
  rw [← Expr.ofReversed_reverse is]
  exact ⟨fun _ _ => .close, fun _ => .close, fun _ _ => .close⟩

end Decode

end WasmScope

import WasmScope.Proofs.Grammar.Instr

namespace WasmScope

def Instr.isStructured : Instr → Bool
  | .block _ _ _ | .cond _ _ _ => true
  | .localVar _ _ | .const _ | .numeric _ | .branch _ _ => false

/-- An instruction that a walk visits, its depth, and the position of its opcode. -/
structure Visit where
  position : Nat
  depth : Nat
  instr : Instr
deriving DecidableEq, Repr

def Visit.exceeds (limit : Nat) (v : Visit) : Bool := limit ≤ v.depth && v.instr.isStructured

/-- Instructions one after another, the first with its opcode at `start` and `depth` structured ones
around them, and the visits of a walk over them. -/
inductive Instr.Laid : (depth start : Nat) → List UInt8 → List Instr → List Visit → Prop
  | nil {depth start : Nat} : Laid depth start [] [] []
  | plain {depth start : Nat} {front back : List UInt8} {i : Instr} {is : List Instr}
      {visits : List Visit} (head : Plain front i)
      (tail : Laid depth (start + front.length) back is visits) :
      Laid depth start (front ++ back) (i :: is) (⟨start, depth, i⟩ :: visits)
  | block {depth start : Nat} {ts bs back : List UInt8} {t : BlockType} {is js : List Instr}
      {inner visits : List Visit} (shape : BlockShape) (type : BlockType.Written ts t)
      (body : Laid (depth + 1) (start + 1 + ts.length) bs is inner)
      (tail : Laid depth (start + 1 + ts.length + bs.length + 1) back js visits) :
      Laid depth start (shape.opcode.code :: (ts ++ (bs ++ Opcode.close.code :: back)))
        (.block shape t (.ofInstrs is .close) :: js)
        (⟨start, depth, .block shape t (.ofInstrs is .close)⟩ :: (inner ++ visits))
  | cond {depth start : Nat} {ts bs back : List UInt8} {t : BlockType} {is js : List Instr}
      {inner visits : List Visit} (type : BlockType.Written ts t)
      (thn : Laid (depth + 1) (start + 1 + ts.length) bs is inner)
      (tail : Laid depth (start + 1 + ts.length + bs.length + 1) back js visits) :
      Laid depth start (Opcode.cond.code :: (ts ++ (bs ++ Opcode.close.code :: back)))
        (.cond t (.ofInstrs is .close) .unset :: js)
        (⟨start, depth, .cond t (.ofInstrs is .close) .unset⟩ :: (inner ++ visits))
  | condElse {depth start : Nat} {ts bs es back : List UInt8} {t : BlockType}
      {is is' js : List Instr} {inner inner' visits : List Visit} (type : BlockType.Written ts t)
      (thn : Laid (depth + 1) (start + 1 + ts.length) bs is inner)
      (els : Laid (depth + 1) (start + 1 + ts.length + bs.length + 1) es is' inner')
      (tail : Laid depth (start + 1 + ts.length + bs.length + 1 + es.length + 1) back js visits) :
      Laid depth start
        (Opcode.cond.code ::
          (ts ++ (bs ++ Opcode.otherwise.code :: (es ++ Opcode.close.code :: back))))
        (.cond t (.ofInstrs is .otherwise) (.ofInstrs is' .close) :: js)
        (⟨start, depth, .cond t (.ofInstrs is .otherwise) (.ofInstrs is' .close)⟩ ::
          (inner ++ (inner' ++ visits)))

def Visit.Clear (limit : Nat) (visits : List Visit) : Prop :=
  ∀ v ∈ visits, v.exceeds limit = false

namespace Visit

theorem find?_eq_none_iff {limit : Nat} {visits : List Visit} :
    visits.find? (·.exceeds limit) = none ↔ Clear limit visits := by
  simp [Clear]

theorem clear_cons {limit : Nat} {v : Visit} {visits : List Visit} :
    Clear limit (v :: visits) ↔ v.exceeds limit = false ∧ Clear limit visits :=
  List.forall_mem_cons

theorem clear_append {limit : Nat} {visits visits' : List Visit} :
    Clear limit (visits ++ visits') ↔ Clear limit visits ∧ Clear limit visits' :=
  List.forall_mem_append

theorem exceeds_structured {position depth limit : Nat} {i : Instr} (h : i.isStructured = true) :
    exceeds limit ⟨position, depth, i⟩ = false ↔ depth < limit := by
  simp [exceeds, h]

end Visit

namespace Instr

theorem Plain.isStructured_eq {bs : List UInt8} {i : Instr} (h : Plain bs i) :
    i.isStructured = false := by
  cases h <;> rfl

theorem Plain.exceeds {bs : List UInt8} {i : Instr} (h : Plain bs i) (position depth limit : Nat) :
    Visit.exceeds limit ⟨position, depth, i⟩ = false := by
  simp [Visit.exceeds, h.isStructured_eq]

theorem Code.laid {room : Nat} {bs : List UInt8} {is : List Instr} (h : Code room bs is)
    {limit depth : Nat} (hroom : room ≤ limit - depth) (start : Nat) :
    ∃ visits, Laid depth start bs is visits ∧ Visit.Clear limit visits := by
  -- what is inside a structured instruction has one level less of room
  have hinside {room depth : Nat} (h : room + 1 ≤ limit - depth) :
      depth < limit ∧ room ≤ limit - (depth + 1) := by
    omega
  induction h generalizing depth start with
  | nil => exact ⟨[], .nil, nofun⟩
  | plain head tail ih =>
    obtain ⟨visits, hvisits, hclear⟩ := ih hroom _
    exact ⟨_, .plain head hvisits, Visit.clear_cons.2 ⟨head.exceeds _ _ _, hclear⟩⟩
  | block shape type body tail ihbody ih =>
    obtain ⟨hlt, hroom'⟩ := hinside hroom
    obtain ⟨inner, hinner, hbody⟩ := ihbody hroom' _
    obtain ⟨visits, hvisits, htail⟩ := ih hroom _
    exact ⟨_, .block shape type hinner hvisits, Visit.clear_cons.2
      ⟨(Visit.exceeds_structured rfl).2 hlt, Visit.clear_append.2 ⟨hbody, htail⟩⟩⟩
  | cond type thn tail ihthn ih =>
    obtain ⟨hlt, hroom'⟩ := hinside hroom
    obtain ⟨inner, hinner, hthn⟩ := ihthn hroom' _
    obtain ⟨visits, hvisits, htail⟩ := ih hroom _
    exact ⟨_, .cond type hinner hvisits, Visit.clear_cons.2
      ⟨(Visit.exceeds_structured rfl).2 hlt, Visit.clear_append.2 ⟨hthn, htail⟩⟩⟩
  | condElse type thn els tail ihthn ihels ih =>
    obtain ⟨hlt, hroom'⟩ := hinside hroom
    obtain ⟨inner, hinner, hthn⟩ := ihthn hroom' _
    obtain ⟨inner', hinner', hels⟩ := ihels hroom' _
    obtain ⟨visits, hvisits, htail⟩ := ih hroom _
    exact ⟨_, .condElse type hinner hinner' hvisits, Visit.clear_cons.2
      ⟨(Visit.exceeds_structured rfl).2 hlt,
        Visit.clear_append.2 ⟨hthn, Visit.clear_append.2 ⟨hels, htail⟩⟩⟩⟩

theorem Laid.code {limit depth start : Nat} {bs : List UInt8} {is : List Instr}
    {visits : List Visit} (h : Laid depth start bs is visits) (hclear : Visit.Clear limit visits) :
    Code (limit - depth) bs is := by
  -- a structured instruction that is allowed leaves room inside
  have hroom {depth start : Nat} {i : Instr} (hi : i.isStructured = true)
      (hv : Visit.exceeds limit ⟨start, depth, i⟩ = false) :
      limit - depth = limit - (depth + 1) + 1 := by
    have hlt := (Visit.exceeds_structured hi).1 hv
    omega
  induction h with
  | nil => exact .nil
  | plain head tail ih => exact .plain head (ih (Visit.clear_cons.1 hclear).2)
  | block shape type body tail ihbody ih =>
    obtain ⟨hhead, hrest⟩ := Visit.clear_cons.1 hclear
    obtain ⟨hinside, htail⟩ := Visit.clear_append.1 hrest
    have ih := ih htail
    rw [hroom rfl hhead] at ih ⊢
    exact .block shape type (ihbody hinside) ih
  | cond type thn tail ihthn ih =>
    obtain ⟨hhead, hrest⟩ := Visit.clear_cons.1 hclear
    obtain ⟨hinside, htail⟩ := Visit.clear_append.1 hrest
    have ih := ih htail
    rw [hroom rfl hhead] at ih ⊢
    exact .cond type (ihthn hinside) ih
  | condElse type thn els tail ihthn ihels ih =>
    obtain ⟨hhead, hrest⟩ := Visit.clear_cons.1 hclear
    obtain ⟨hinside, hrest⟩ := Visit.clear_append.1 hrest
    obtain ⟨hinside', htail⟩ := Visit.clear_append.1 hrest
    have ih := ih htail
    rw [hroom rfl hhead] at ih ⊢
    exact .condElse type (ihthn hinside) (ihels hinside') ih

theorem code_iff_laid {limit depth start : Nat} {bs : List UInt8} {is : List Instr} :
    Code (limit - depth) bs is ↔
      ∃ visits, Laid depth start bs is visits ∧ Visit.Clear limit visits := by
  constructor
  · intro h
    exact h.laid (Nat.le_refl _) start
  · intro h
    obtain ⟨visits, hvisits, hclear⟩ := h
    exact hvisits.code hclear

end Instr

namespace Decode

variable {nesting : Nesting} {p : Pending} {c rest : Cursor}

/-- The answer of a run over the visits: the first of them that the limit does not allow ends the
run, and otherwise it goes on. -/
def answerTo (limit : Nat) (visits : List Visit) (more : Except Defect (Expr × Cursor)) :
    Except Defect (Expr × Cursor) :=
  match visits.find? (·.exceeds limit) with
  | some v => .error (.nestingTooDeep v.position limit)
  | none => more

theorem answerTo_of_clear {limit : Nat} {visits : List Visit}
    {more : Except Defect (Expr × Cursor)} (h : Visit.Clear limit visits) :
    answerTo limit visits more = more := by
  rw [answerTo, Visit.find?_eq_none_iff.2 h]

theorem answerTo_cons_of_exceeds {limit : Nat} {v : Visit} {visits : List Visit}
    {more : Except Defect (Expr × Cursor)} (h : v.exceeds limit = true) :
    answerTo limit (v :: visits) more = .error (.nestingTooDeep v.position limit) := by
  rw [answerTo, List.find?_cons_of_pos h]

theorem answerTo_cons_of_not_exceeds {limit : Nat} {v : Visit} {visits : List Visit}
    {more : Except Defect (Expr × Cursor)} (h : v.exceeds limit = false) :
    answerTo limit (v :: visits) more = answerTo limit visits more := by
  rw [answerTo, List.find?_cons_of_neg (by simp [h])]
  rfl

theorem answerTo_append {limit : Nat} {visits visits' : List Visit}
    {more : Except Defect (Expr × Cursor)} :
    answerTo limit (visits ++ visits') more =
      answerTo limit visits (answerTo limit visits' more) := by
  rw [answerTo, answerTo, List.find?_append]
  cases visits.find? (·.exceeds limit) with
  | some v => rfl
  | none => rfl

theorem answerTo_congr {limit depth start : Nat} {i : Instr} {inner : List Visit}
    {more more' : Except Defect (Expr × Cursor)} (hi : i.isStructured = true)
    (h : depth < limit → more = more') :
    answerTo limit (⟨start, depth, i⟩ :: inner) more =
      answerTo limit (⟨start, depth, i⟩ :: inner) more' := by
  rcases Nat.lt_or_ge depth limit with hlt | hle
  · rw [h hlt]
  · have hv : Visit.exceeds limit ⟨start, depth, i⟩ = true := by simp [Visit.exceeds, hle, hi]
    rw [answerTo_cons_of_exceeds hv, answerTo_cons_of_exceeds hv]

/-- How a run goes over instructions that are laid out, whatever is open around them. -/
def Runs (nesting : Nesting) (depth start : Nat) (bs : List UInt8) (is : List Instr)
    (visits : List Visit) : Prop :=
  ∀ p c rest, nesting.outer + p.frames.length = depth → c.position = start → c.Spans bs rest →
    resume nesting p c =
      answerTo nesting.limit visits (resume nesting ⟨p.frames, is.reverse ++ p.done⟩ rest)

theorem Runs.opening {depth start : Nat} {code : UInt8} {ts bs : List UInt8} {t : BlockType}
    {is : List Instr} {frame : BlockType → List Instr → Frame} {i : Instr}
    {inner : List Visit} (h : Runs nesting (depth + 1) (start + 1 + ts.length) bs is inner)
    (opens : Opening code frame) (type : BlockType.Written ts t) (hi : i.isStructured = true)
    (hdepth : nesting.outer + p.frames.length = depth) (hc : c.position = start)
    (hs : c.Spans ((code :: ts) ++ bs) rest) :
    resume nesting p c = answerTo nesting.limit (⟨start, depth, i⟩ :: inner)
      (resume nesting ⟨frame t p.done :: p.frames, is.reverse⟩ rest) := by
  rcases Nat.lt_or_ge depth nesting.limit with hlt | hle
  · obtain ⟨mid, htype, hbody⟩ := hs.split
    have hmid : mid.position = start + 1 + ts.length := by
      rw [htype.position, hc, List.length_cons]
      omega
    have hfits : nesting.outer + p.frames.length < nesting.limit := by omega
    have hinner : nesting.outer + (p.enter (frame t)).frames.length = depth + 1 := by
      rw [Pending.enter, List.length_cons]
      omega
    rw [answerTo_cons_of_not_exceeds ((Visit.exceeds_structured hi).2 hlt)]
    calc resume nesting p c
      _ = resume nesting (p.enter (frame t)) mid := resume_more (.opening opens hfits type) htype
      _ = answerTo nesting.limit inner
          (resume nesting ⟨frame t p.done :: p.frames, is.reverse ++ []⟩ rest) :=
        h _ _ _ hinner hmid hbody
      _ = _ := by rw [List.append_nil]
  · have hv : Visit.exceeds nesting.limit ⟨start, depth, i⟩ = true := by
      simp [Visit.exceeds, hle, hi]
    rw [answerTo_cons_of_exceeds hv, ← hc]
    exact resume_refused opens (by omega) hs

theorem Runs.closing {depth start : Nat} {back : List UInt8} {js : List Instr}
    {visits : List Visit} {i : Instr} {q : Pending} (h : Runs nesting depth start back js visits)
    (hm : Move nesting q [Opcode.close.code] (.more (p.push i)))
    (hdepth : nesting.outer + p.frames.length = depth) (hc : c.position + 1 = start)
    (hs : c.Spans ([Opcode.close.code] ++ back) rest) :
    resume nesting q c = answerTo nesting.limit visits
      (resume nesting ⟨p.frames, (i :: js).reverse ++ p.done⟩ rest) := by
  obtain ⟨mid, hclose, hback⟩ := hs.split
  have hmid : mid.position = start := by rw [hclose.position, ← hc, List.length_singleton]
  rw [resume_more hm hclose, h (p.push i) mid rest hdepth hmid hback]
  simp [Pending.push]

theorem runs_laid {depth start : Nat} {bs : List UInt8} {is : List Instr} {visits : List Visit}
    (nesting : Nesting) (h : Instr.Laid depth start bs is visits) :
    Runs nesting depth start bs is visits := by
  induction h with
  | nil =>
    intro p c rest hdepth hc hs
    rw [Cursor.spans_nil.1 hs]
    rfl
  | @plain depth start front back i is visits head tail ih =>
    intro p c rest hdepth hc hs
    obtain ⟨c₁, h₁, hs⟩ := hs.split
    rw [answerTo_cons_of_not_exceeds (head.exceeds _ _ _)]
    calc resume nesting p c
      _ = resume nesting (p.push i) c₁ := resume_more (.plain head) h₁
      _ = _ := ih (p.push i) _ _ hdepth (by rw [h₁.position, hc]) hs
      _ = _ := by simp [Pending.push]
  | @block depth start ts bs back t is js inner visits shape type body tail ihbody ih =>
    intro p c rest hdepth hc hs
    have hs : c.Spans ((shape.opcode.code :: ts) ++ bs ++ ([Opcode.close.code] ++ back)) rest := by
      rw [List.append_assoc]
      exact hs
    obtain ⟨c₁, h₁, h₂⟩ := hs.split
    have hc₁ : c₁.position + 1 = start + 1 + ts.length + bs.length + 1 := by
      rw [h₁.position, hc, List.length_append, List.length_cons]
      omega
    have hopening := ihbody.opening (i := .block shape t (.ofInstrs is .close)) (.block shape) type
      rfl hdepth hc h₁
    rw [← List.cons_append, answerTo_append, hopening]
    rw [ih.closing ((Move.close_frame nesting p is).1 shape t) hdepth hc₁ h₂]
  | @cond depth start ts bs back t is js inner visits type thn tail ihthn ih =>
    intro p c rest hdepth hc hs
    have hs : c.Spans ((Opcode.cond.code :: ts) ++ bs ++ ([Opcode.close.code] ++ back)) rest := by
      rw [List.append_assoc]
      exact hs
    obtain ⟨c₁, h₁, h₂⟩ := hs.split
    have hc₁ : c₁.position + 1 = start + 1 + ts.length + bs.length + 1 := by
      rw [h₁.position, hc, List.length_append, List.length_cons]
      omega
    have hopening := ihthn.opening (i := .cond t (.ofInstrs is .close) .unset) .cond type rfl
      hdepth hc h₁
    rw [← List.cons_append, answerTo_append, hopening]
    rw [ih.closing ((Move.close_frame nesting p is).2.1 t) hdepth hc₁ h₂]
  | @condElse depth start ts bs es back t is is' js inner inner' visits type thn els tail ihthn
      ihels ih =>
    intro p c rest hdepth hc hs
    have hs : c.Spans ((Opcode.cond.code :: ts) ++ bs ++ ([Opcode.otherwise.code] ++
        (es ++ ([Opcode.close.code] ++ back)))) rest := by
      rw [List.append_assoc]
      exact hs
    obtain ⟨c₁, h₁, hs⟩ := hs.split
    obtain ⟨c₂, h₂, hs⟩ := hs.split
    obtain ⟨c₃, h₃, h₄⟩ := hs.split
    have hc₂ : c₂.position = start + 1 + ts.length + bs.length + 1 := by
      rw [h₂.position, h₁.position, hc, List.length_append, List.length_cons, List.length_singleton]
      omega
    have hc₃ : c₃.position + 1 = start + 1 + ts.length + bs.length + 1 + es.length + 1 := by
      rw [h₃.position, hc₂]
    have hopening := ihthn.opening
      (i := .cond t (.ofInstrs is .otherwise) (.ofInstrs is' .close)) .cond type rfl hdepth hc h₁
    rw [← List.cons_append, answerTo_append, answerTo_append, hopening]
    -- a refusal of the conditional leaves nothing to show about its branches
    apply answerTo_congr rfl
    intro hlt
    have hinner : nesting.outer +
        (Frame.elseBranch t (.ofInstrs is .otherwise) p.done :: p.frames).length = depth + 1 := by
      rw [List.length_cons]
      omega
    calc resume nesting ⟨.thenBranch t p.done :: p.frames, is.reverse⟩ c₁
      _ = resume nesting ⟨.elseBranch t (.ofInstrs is .otherwise) p.done :: p.frames, []⟩ c₂ := by
        rw [← Expr.ofReversed_reverse is]
        exact resume_more (.otherwise rfl) h₂
      _ = answerTo nesting.limit inner' (resume nesting
          ⟨.elseBranch t (.ofInstrs is .otherwise) p.done :: p.frames, is'.reverse ++ []⟩ c₃) :=
        ihels _ _ _ hinner hc₂ h₃
      _ = _ := by
        rw [List.append_nil]
        rw [ih.closing ((Move.close_frame nesting p is').2.2 t _) hdepth hc₃ h₄]

end Decode

end WasmScope

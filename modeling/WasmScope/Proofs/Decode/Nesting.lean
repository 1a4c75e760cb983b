import WasmScope.Proofs.Decode.Layout
import WasmScope.Proofs.Decode.Preempt
import WasmScope.Proofs.Encode.Recoding

namespace WasmScope

def Defect.IsDeep (limit : Nat) (d : Defect) : Prop :=
  d.report.kind = .invalidInput ∧ d.report.value = .int limit

def Visit.opensAt (depth : Nat) (v : Visit) : Bool := v.depth == depth && v.instr.isStructured

namespace Instr

theorem Laid.clear {limit depth start : Nat} {bs : List UInt8} {is : List Instr}
    {visits : List Visit} (h : Laid depth start bs is visits) (t : Opcode)
    (hle : depth + (Expr.ofInstrs is t).nesting ≤ limit) : Visit.Clear limit visits := by
  have hallowed {depth start : Nat} {i : Instr} (hi : i.isStructured = true) (hlt : depth < limit) :
      Visit.exceeds limit ⟨start, depth, i⟩ = false := (Visit.exceeds_structured hi).2 hlt
  induction h generalizing t with
  | nil => exact nofun
  | plain head tail ih =>
    rw [Expr.ofInstrs_cons, Expr.nesting] at hle
    exact Visit.clear_cons.2 ⟨head.exceeds _ _ _, ih t (by omega)⟩
  | block shape type body tail ihbody ih =>
    rw [Expr.ofInstrs_cons, Expr.nesting, Instr.nesting] at hle
    exact Visit.clear_cons.2 ⟨hallowed rfl (by omega),
      Visit.clear_append.2 ⟨ihbody .close (by omega), ih t (by omega)⟩⟩
  | cond type thn tail ihthn ih =>
    rw [Expr.ofInstrs_cons, Expr.nesting, Instr.nesting] at hle
    exact Visit.clear_cons.2 ⟨hallowed rfl (by omega),
      Visit.clear_append.2 ⟨ihthn .close (by omega), ih t (by omega)⟩⟩
  | condElse type thn els tail ihthn ihels ih =>
    rw [Expr.ofInstrs_cons, Expr.nesting, Instr.nesting] at hle
    exact Visit.clear_cons.2 ⟨hallowed rfl (by omega), Visit.clear_append.2
      ⟨ihthn .otherwise (by omega),
        Visit.clear_append.2 ⟨ihels .close (by omega), ih t (by omega)⟩⟩⟩

/-- A walk goes into an instruction before it comes to what is deeper, so that the first visit that
the limit does not allow is to an instruction at the depth of the limit. -/
theorem Laid.find?_exceeds {n depth start : Nat} {bs : List UInt8} {is : List Instr}
    {visits : List Visit} (h : Laid depth start bs is visits) (hle : depth ≤ n) :
    visits.find? (·.exceeds n) = visits.find? (·.opensAt n) := by
  have hopening {depth start : Nat} {i : Instr} {inner visits : List Visit} (hle : depth ≤ n)
      (hi : i.isStructured = true)
      (hinner : depth < n → inner.find? (·.exceeds n) = inner.find? (·.opensAt n))
      (hvisits : visits.find? (·.exceeds n) = visits.find? (·.opensAt n)) :
      (⟨start, depth, i⟩ :: (inner ++ visits)).find? (·.exceeds n) =
        (⟨start, depth, i⟩ :: (inner ++ visits)).find? (·.opensAt n) := by
    rcases hle.lt_or_eq with hlt | rfl
    · rw [List.find?_cons_of_neg (by simp [Visit.exceeds, hlt]),
        List.find?_cons_of_neg (by simp [Visit.opensAt, hlt.ne]), List.find?_append,
        List.find?_append, hinner hlt, hvisits]
    · rw [List.find?_cons_of_pos (by simp [Visit.exceeds, hi]),
        List.find?_cons_of_pos (by simp [Visit.opensAt, hi])]
  induction h with
  | nil => rfl
  | plain head tail ih =>
    have hplain := head.isStructured_eq
    rw [List.find?_cons_of_neg (by simp [Visit.exceeds, hplain]),
      List.find?_cons_of_neg (by simp [Visit.opensAt, hplain]), ih hle]
  | block shape type body tail ihbody ih => exact hopening hle rfl ihbody (ih hle)
  | cond type thn tail ihthn ih => exact hopening hle rfl ihthn (ih hle)
  | condElse type thn els tail ihthn ihels ih =>
    rw [← List.append_assoc]
    refine hopening hle rfl (fun hlt => ?_) (ih hle)
    rw [List.find?_append, List.find?_append, ihthn hlt, ihels hlt]

end Instr

namespace Expr

variable {n start : Nat} {bs : List UInt8} {e : Expr} {visits : List Visit}

theorem Laid.find?_exceeds (h : Laid start bs e visits) :
    visits.find? (·.exceeds n) = visits.find? (·.opensAt n) := by
  obtain ⟨code⟩ := h
  exact code.find?_exceeds (Nat.zero_le n)

theorem Laid.find?_opensAt_eq_none_iff (h : Laid start bs e visits) :
    visits.find? (·.opensAt n) = none ↔ e.nesting ≤ n := by
  rw [← h.find?_exceeds, Visit.find?_eq_none_iff]
  constructor
  · intro hclear
    exact (written_iff_laid.2 ⟨visits, h, hclear⟩).nesting_le
  · intro hle
    obtain ⟨code⟩ := h
    exact code.clear .close (by omega)

end Expr

namespace Decode

variable {n N outer : Nat} {p p' : Pending} {c : Cursor}

/-- The offset that a defect is reported at lies no earlier than where reading began. -/
theorem onward_of_moved {α : Type} {r : Reader α}
    (h : ∀ k, Reader.Shifts k (Defect.MovedBy k) r r) :
    Reader.Onward (fun d => d.report.offset) r := by
  apply Reader.onward_of_shifts h
  intro k d d' hmoved
  have hnonneg := d.offset_nonneg
  have hoffset : d'.report.offset = d.report.offset + k := by rw [hmoved]
  rw [hoffset]
  omega

theorem onward_resume (nesting : Nesting) (p : Pending) :
    Reader.Onward (fun d => d.report.offset) (resume nesting p) := by
  have hstep (p : Pending) := onward_of_moved fun _ => shifts_step nesting p
  constructor
  · intro c e rest hr
    fun_induction resume nesting p c with
    | case1 p c d h => cases hr
    | case2 p c e' rest' h =>
      cases hr
      exact (hstep p).ok h
    | case3 p c p' mid h _ ih => exact ((hstep p).ok h).trans (ih hr)
  · intro c d hr
    fun_induction resume nesting p c with
    | case1 p c d' h =>
      cases hr
      exact (hstep p).error h
    | case2 p c e rest h => cases hr
    | case3 p c p' mid h _ ih => exact (Int.ofNat_le.2 ((hstep p).ok h)).trans (ih hr)

theorem Move.frames_le {nesting : Nesting} {bs : List UInt8} (h : Move nesting p bs (.more p'))
    (hp : nesting.outer + p.frames.length ≤ nesting.limit) :
    nesting.outer + p'.frames.length ≤ nesting.limit := by
  obtain ⟨frames, done⟩ := p
  generalize hg : Progress.more p' = g at h
  cases h with
  | plain instr =>
    cases hg
    exact hp
  | opening opens fits type =>
    cases hg
    exact fits
  | close =>
    cases frames with
    | nil => cases hg
    | cons frame frames =>
      rw [List.length_cons] at hp
      cases frame <;> cases hg <;> exact Nat.le_of_succ_le hp
  | otherwise parts =>
    cases hg
    cases frames with
    | nil => cases parts
    | cons frame frames =>
      cases frame <;> cases parts
      exact hp

theorem step_limits (hlt : n < N) (hp : outer + p.frames.length ≤ n) (c : Cursor) :
    step ⟨n, outer⟩ p c = step ⟨N, outer⟩ p c ∨
      step ⟨n, outer⟩ p c = .error (.nestingTooDeep c.position n) ∧
        (∀ g rest, step ⟨N, outer⟩ p c = .ok (g, rest) → c.position + 1 < rest.position) ∧
        ∀ d, step ⟨N, outer⟩ p c = .error d → c.position < d.report.offset := by
  cases hc : c.unread with
  | nil =>
    left
    obtain ⟨position, unread⟩ := c
    cases hc
    rfl
  | cons code after =>
    rw [step_cons hc, step_cons hc]
    unfold immediates
    -- only an opening looks at the limit
    cases hform : form code with
    | opening frame =>
      dsimp only
      have hfits : ¬ N ≤ outer + p.frames.length := by omega
      rw [if_neg hfits]
      by_cases hfull : n ≤ outer + p.frames.length
      · rw [if_pos hfull]
        refine .inr ⟨rfl, ?_, ?_⟩
        · intro g rest hr
          obtain ⟨t, mid, ht, hr⟩ := Reader.bind_eq_ok.1 hr
          cases hr
          obtain ⟨k, hk, -, rfl⟩ := Reader.advances_blockType _ _ _ ht
          dsimp only [Cursor.position_advance]
          omega
        · intro d hr
          rcases Reader.bind_eq_error.1 hr with hr | ⟨t, mid, -, hr⟩
          · have := (onward_of_moved fun _ => Reader.shifts_blockType).error hr
            dsimp only at this
            omega
          · cases hr
      · rw [if_neg hfull]
        exact .inl rfl
    | _ => exact .inl rfl

/-- Under the smaller limit a run goes as it does under the larger one, up to an instruction that
the smaller one refuses; the larger one then takes the run past its opcode and its type. -/
theorem resume_limits (hlt : n < N) (hp : outer + p.frames.length ≤ n) (c : Cursor) :
    resume ⟨n, outer⟩ p c = resume ⟨N, outer⟩ p c ∨
      ∃ o : Nat, resume ⟨n, outer⟩ p c = .error (.nestingTooDeep o n) ∧
        (∀ e rest, resume ⟨N, outer⟩ p c = .ok (e, rest) → o + 1 < rest.position) ∧
        ∀ d, resume ⟨N, outer⟩ p c = .error d → o < d.report.offset := by
  fun_induction resume ⟨N, outer⟩ p c with
  | case1 p c d h =>
    rcases step_limits hlt hp c with hsame | ⟨hrefused, -, herror⟩
    · exact .inl (resume_error (hsame.trans h))
    · refine .inr ⟨c.position, resume_error hrefused, ?_, ?_⟩
      · intro e rest he
        cases he
      · intro d' hd'
        cases hd'
        exact herror d h
  | case2 p c e rest h =>
    rcases step_limits hlt hp c with hsame | ⟨hrefused, hok, -⟩
    · obtain ⟨bs, hm, hs⟩ := (reads_step _ p c _ _).1 (hsame.trans h)
      exact .inl (resume_closed hm hs)
    · refine .inr ⟨c.position, resume_error hrefused, ?_, ?_⟩
      · intro e' rest' he
        cases he
        exact hok _ _ h
      · intro d hd
        cases hd
  | case3 p c p' mid h _ ih =>
    rcases step_limits hlt hp c with hsame | ⟨hrefused, hok, -⟩
    · obtain ⟨bs, hm, hs⟩ := (reads_step _ p c _ _).1 (hsame.trans h)
      rw [resume_more hm hs]
      exact ih (hm.frames_le hp)
    · -- the larger limit goes on behind the type, and a run reports nothing in front of its start
      have hmid := hok _ _ h
      refine .inr ⟨c.position, resume_error hrefused, ?_, ?_⟩
      · intro e rest he
        have := (onward_resume _ _).ok he
        omega
      · intro d hd
        have := (onward_resume _ _).error hd
        omega

end Decode

theorem Reader.preempts_closedExpr {n N : Nat} (hlt : n < N) :
    Preempts (fun d => d.report.offset) (Defect.IsDeep n) (closedExpr { limit := N })
      (closedExpr { limit := n }) := by
  intro c
  have hstart : 0 + Decode.Pending.start.frames.length ≤ n := Nat.zero_le n
  rcases Decode.resume_limits hlt hstart c with hsame | ⟨o, ho, hok, herror⟩
  · exact .inl (bind_congr_left hsame)
  · refine .inr ⟨_, bind_eq_error.2 (.inl ho), ⟨rfl, rfl⟩, ?_, ?_⟩
    · intro e rest hr
      obtain ⟨e', mid, he', hr⟩ := bind_eq_ok.1 hr
      obtain ⟨k, _, hk, hr⟩ := bind_eq_ok.1 hr
      cases hk
      have := hok _ _ he'
      split at hr
      · cases hr
      · cases hr
        change (o : Int) < _
        omega
    · intro d hr
      rcases bind_eq_error.1 hr with hr | ⟨e, mid, he, hr⟩
      · exact herror d hr
      · -- an else that closes the expression stands behind the refused opcode
        rcases bind_eq_error.1 hr with hr | ⟨k, _, hk, hr⟩
        · cases hr
        cases hk
        have := hok _ _ he
        split at hr
        · cases hr
          change (o : Int) < ((mid.position - 1 : Nat) : Int)
          omega
        · cases hr

namespace Decode

variable {n N : Nat} {strict : Bool}

theorem preempts_bodyContent (hlt : n < N) (size : UInt32) :
    Reader.Preempts (fun d => d.report.offset) (Defect.IsDeep n) (bodyContent ⟨strict, N⟩ size)
      (bodyContent ⟨strict, n⟩ size) := by
  have hend (locals : List LocalEntry) (body : Expr) :
      Reader.Onward (fun d : Defect => d.report.offset) fun rest : Cursor =>
        if rest.unread.isEmpty then .ok ((⟨⟨size, locals, body⟩, none⟩ : BodyRead), rest)
        else if strict then .error (.trailingBytes rest.position rest.unread.length)
        else .ok (⟨⟨size, locals, body⟩, some (rest.position, rest.unread.length)⟩, rest) := by
    constructor
    · intro c read rest hr
      split at hr
      · cases hr
        exact Nat.le_refl _
      · split at hr
        · cases hr
        · cases hr
          exact Nat.le_refl _
    · intro c d hr
      split at hr
      · cases hr
      · split at hr
        · cases hr
          exact Int.le_refl _
        · cases hr
  have hcode := onward_of_moved fun k => Reader.shifts_closedExpr (n := k) { limit := N }
  apply (Reader.preempts_self _).bind
  · intro locals
    apply (Reader.preempts_closedExpr hlt).bind
    · exact fun body => Reader.preempts_self _
    · exact hend locals
  · intro locals
    exact hcode.bind (hend locals)

theorem bodyContent_position_le {options : DecodeOptions} {size : UInt32} {read : BodyRead}
    {c rest : Cursor} (h : bodyContent options size c = .ok (read, rest)) :
    rest.position ≤ c.position + c.unread.length := by
  obtain ⟨locals, c₁, h₁, h⟩ := Reader.bind_eq_ok.1 h
  obtain ⟨e, c₂, h₂, h⟩ := Reader.bind_eq_ok.1 h
  obtain ⟨ls, -, hs₁⟩ := (Reader.reads_vector Reader.reads_localEntry _ _ _).1 h₁
  obtain ⟨es, -, hs₂⟩ := (Reader.reads_closedExpr _ _ _ _).1 h₂
  have hspan := hs₁.append hs₂
  have hrest : rest = c₂ := by
    split at h
    · cases h
      rfl
    · split at h
      · cases h
      · cases h
        rfl
  have hlength := congrArg List.length hspan.unread
  rw [List.length_append] at hlength
  rw [hrest, hspan.position]
  omega

theorem body_eq {options : DecodeOptions} {size : UInt32} {c mid region rest : Cursor}
    (hsize : Reader.u32 c = .ok (size, mid))
    (hregion : Reader.region size.toNat mid = .ok (region, rest)) :
    body options c = (bodyContent options size region).map (fun x => (x.1, rest)) := by
  cases hread : bodyContent options size region with
  | ok x => exact body_eq_ok_iff.2 ⟨size, mid, region, x.2, hsize, hregion, hread⟩
  | error d =>
    refine Reader.bind_eq_error.2 (.inr ⟨_, _, hsize, Reader.bind_eq_error.2 (.inr ⟨_, _, hregion,
      ?_⟩)⟩)
    rw [hread]
    rfl

theorem preempts_body (hlt : n < N) :
    Reader.Preempts (fun d => d.report.offset) (Defect.IsDeep n) (body ⟨strict, N⟩)
      (body ⟨strict, n⟩) := by
  intro c
  cases hsize : Reader.u32 c with
  | error d =>
    have hfail (options : DecodeOptions) : body options c = .error d :=
      Reader.bind_eq_error.2 (.inl hsize)
    rw [hfail, hfail]
    exact .inl rfl
  | ok x =>
    obtain ⟨size, mid⟩ := x
    cases hregion : Reader.region size.toNat mid with
    | error d =>
      have hfail (options : DecodeOptions) : body options c = .error d :=
        Reader.bind_eq_error.2 (.inr ⟨size, mid, hsize, Reader.bind_eq_error.2 (.inl hregion)⟩)
      rw [hfail, hfail]
      exact .inl rfl
    | ok y =>
      obtain ⟨region, rest⟩ := y
      rw [body_eq hsize hregion, body_eq hsize hregion]
      rcases preempts_bodyContent hlt size region with hsame | ⟨d, hd, hdeep, hok, herror⟩
      · rw [hsame]
        exact .inl rfl
      · refine .inr ⟨d, except_map_eq_error.2 hd, hdeep, ?_, ?_⟩
        · intro read rest' hr
          obtain ⟨⟨read', after⟩, hread, hpair⟩ := except_map_eq_ok.1 hr
          cases hpair
          obtain ⟨bs, hlength, rfl, hspan⟩ := Reader.region_natCast_eq_ok_iff.1 hregion
          have hbefore := hok _ _ hread
          have hafter := bodyContent_position_le hread
          have hrest := hspan.position
          dsimp only at hafter
          omega
        · intro d' hd'
          exact herror d' (except_map_eq_error.1 hd')

theorem bodiesPreempt_limits (hlt : n < N) :
    BodiesPreempt (Defect.IsDeep n) ⟨strict, N⟩ ⟨strict, n⟩ := by
  intro i
  apply (preempts_placed (preempts_body hlt) [.body i]).bind
  · exact fun read => Reader.preempts_self _
  · exact fun read => Reader.onward_pure _

end Decode

variable {n N : Nat}

namespace Expr

variable {code : List UInt8} {e : Expr} {visits : List Visit}

/-- Decoding of an expression that is laid out: the first instruction at the depth of the limit is
refused. -/
theorem decode_laid (h : Laid 0 code e visits) :
    decode n code = match visits.find? (·.opensAt n) with
      | some v => .error (.nestingTooDeep v.position n)
      | none => .ok e := by
  have hspan := Cursor.spans_front 0 code []
  rw [List.append_nil] at hspan
  have hrun : Reader.closedExpr { limit := n } (.ofBytes code) = _ :=
    Reader.closedExpr_laid h hspan n
  rw [decode, hrun, Decode.answerTo, h.find?_exceeds]
  cases visits.find? (·.opensAt n) with
  | some v => rfl
  | none => rfl

theorem laid_of_decode (h : decode N code = .ok e) : ∃ visits, Laid 0 code e visits := by
  rw [decode] at h
  split at h
  · cases h
  · next e' rest hr =>
    split at h
    · next hempty =>
      cases h
      obtain ⟨bs, hw, hs⟩ := (Reader.reads_closedExpr _ _ _ _).1 hr
      have hcode : code = bs := by
        have hunread : code = bs ++ rest.unread := hs.unread
        rw [hunread, List.isEmpty_iff.1 hempty, List.append_nil]
      obtain ⟨visits, hvisits, -⟩ := written_iff_laid.1 hw
      rw [← hcode] at hvisits
      exact ⟨visits, hvisits⟩
    · cases h

theorem decode_preempted {d : Defect} (hlt : n < N) (h : decode N code = .error d) :
    decode n code = .error d ∨
      ∃ d', decode n code = .error d' ∧ d'.IsDeep n ∧ d'.report.offset < d.report.offset := by
  rcases Reader.preempts_closedExpr hlt (.ofBytes code) with hsame | ⟨d', hd', hdeep, hok, herror⟩
  · left
    rw [decode, hsame]
    exact h
  · refine .inr ⟨d', by rw [decode, hd'], hdeep, ?_⟩
    rw [decode] at h
    split at h
    · next hr =>
      cases h
      exact herror d hr
    · next e rest hr =>
      split at h
      · cases h
      · cases h
        exact hok e rest hr

theorem decode_of_limit (h : decode N code = .ok e) (n : Nat) :
    ∃ visits, Laid 0 code e visits ∧
      visits.map (fun v => (v.depth, v.instr)) = e.walkAll ∧
      (e.nesting ≤ n → decode n code = .ok e) ∧
      (n < e.nesting → ∃ v, visits.find? (·.opensAt n) = some v ∧
        decode n code = .error (.nestingTooDeep v.position n)) := by
  obtain ⟨visits, hvisits⟩ := laid_of_decode h
  have hfirst := hvisits.find?_opensAt_eq_none_iff (n := n)
  have hdecode := decode_laid hvisits (n := n)
  refine ⟨visits, hvisits, hvisits.walk, fun hle => ?_, fun hlt => ?_⟩
  · rw [hdecode, hfirst.2 hle]
  · cases hv : visits.find? (·.opensAt n) with
    | none => exact absurd (hfirst.1 hv) (Nat.not_le.2 hlt)
    | some v =>
      rw [hv] at hdecode
      exact ⟨v, rfl, hdecode⟩

end Expr

namespace BodyLayout

variable {strict : Bool}

theorem fault_of_limit {k : Nat} {es : List UInt8} {b : BodyLayout}
    (hlaid : Expr.Laid k es b.body.body b.visits) (h : b.fault ⟨strict, N⟩ = none) (n : Nat) :
    b.fault ⟨strict, n⟩ =
      (b.visits.find? (·.opensAt n)).map fun v => .nestingTooDeep v.position n := by
  have htight := (fault_eq_none_iff.1 h).2
  rw [fault, hlaid.find?_exceeds]
  cases b.visits.find? (·.opensAt n) with
  | some v => rfl
  | none =>
    apply if_neg
    intro hloose
    have hzero := htight hloose.1
    omega

theorem first_fault_of_limit {bodies : List BodyLayout}
    (hlaid : ∀ b ∈ bodies, ∃ k es, Expr.Laid k es b.body.body b.visits)
    (h : ∀ b ∈ bodies, b.fault ⟨strict, N⟩ = none) (n : Nat) :
    bodies.findSome? (·.fault ⟨strict, n⟩) =
      ((bodies.flatMap (·.visits)).find? (·.opensAt n)).map
        fun v => .nestingTooDeep v.position n := by
  induction bodies with
  | nil => rfl
  | cons b bodies ih =>
    obtain ⟨⟨k, es, hb⟩, hbodies⟩ := List.forall_mem_cons.1 hlaid
    obtain ⟨hfault, hfaults⟩ := List.forall_mem_cons.1 h
    rw [List.findSome?_cons, List.flatMap_cons, List.find?_append, fault_of_limit hb hfault n]
    cases b.visits.find? (·.opensAt n) with
    | some v => rfl
    | none => exact ih hbodies hfaults

end BodyLayout

namespace Module

variable {data : List UInt8} {m : Module} {strict : Bool}

theorem decode_of_limit (h : decode ⟨strict, N⟩ data = .ok m) (n : Nat) :
    ∃ layout, Laid data m layout ∧ (layout.flatMap (·.bodies)).map (·.body) = m.bodies ∧
      (∀ b ∈ layout.flatMap (·.bodies),
        b.visits.map (fun v => (v.depth, v.instr)) = b.body.body.walkAll) ∧
      ((∀ fb ∈ m.bodies, fb.body.nesting ≤ n) → decode ⟨strict, n⟩ data = .ok m) ∧
      ((∃ fb ∈ m.bodies, n < fb.body.nesting) → ∃ v places,
        ((layout.flatMap (·.bodies)).flatMap (·.visits)).find? (·.opensAt n) = some v ∧
        decode ⟨strict, n⟩ data = .error ⟨places, .nestingTooDeep v.position n⟩) := by
  obtain ⟨layout, hlayout, hfaults⟩ := decode_iff_laid.1 h
  obtain ⟨hbodies, hexprs⟩ := hlayout.bodies
  have hfirst := BodyLayout.first_fault_of_limit hexprs (List.forall_mem_flatMap.2 hfaults) n
  have hnone : ((layout.flatMap (·.bodies)).flatMap (·.visits)).find? (·.opensAt n) = none ↔
      ∀ fb ∈ m.bodies, fb.body.nesting ≤ n := by
    rw [List.find?_flatMap, List.findSome?_eq_none_iff, ← hbodies, List.forall_mem_map]
    apply forall₂_congr
    intro b hb
    obtain ⟨k, es, hb⟩ := hexprs b hb
    exact hb.find?_opensAt_eq_none_iff
  refine ⟨layout, hlayout, hbodies, fun b hb => ?_, fun hle => ?_, fun hdeep => ?_⟩
  · obtain ⟨k, es, hb⟩ := hexprs b hb
    exact hb.walk
  · rw [hnone.2 hle] at hfirst
    have hfaults := List.forall_mem_flatMap.1 (List.findSome?_eq_none_iff.1 hfirst)
    exact decode_iff_laid.2 ⟨layout, hlayout, hfaults⟩
  · obtain ⟨fb, hfb, hlt⟩ := hdeep
    cases hv : ((layout.flatMap (·.bodies)).flatMap (·.visits)).find? (·.opensAt n) with
    | none => exact absurd (hnone.1 hv fb hfb) (Nat.not_le.2 hlt)
    | some v =>
      rw [hv] at hfirst
      obtain ⟨places, hplaces⟩ := decode_fault hlayout hfirst
      exact ⟨v, places, rfl, hplaces⟩

end Module

namespace Decode

/-- A failure that is no matter of nesting is there under every limit, behind a smaller one's
refusal at most. Where the other limit is the larger one, its own answer decides. -/
theorem error_of_limit {ε β : Type} (run : Nat → Except ε β) (offset : ε → Int)
    {deep : Nat → ε → Prop} {e : ε}
    (hsmaller : ∀ {n N e}, n < N → run N = .error e → run n = .error e ∨
      ∃ e', run n = .error e' ∧ deep n e' ∧ offset e' < offset e)
    (hok : ∀ {n N x}, run N = .ok x → run n = .ok x ∨ ∃ e, run n = .error e ∧ deep n e)
    (h : run N = .error e) (hdeep : ¬ deep N e) (n : Nat) :
    run n = .error e ∨ ∃ e', run n = .error e' ∧ deep n e' ∧ offset e' < offset e := by
  rcases Nat.lt_trichotomy n N with hlt | rfl | hlt
  · exact hsmaller hlt h
  · exact .inl h
  · left
    cases hn : run n with
    | error e₀ =>
      rcases hsmaller hlt hn with hsame | ⟨e', he', hdeep', -⟩
      · cases h.symm.trans hsame
        rfl
      · cases h.symm.trans he'
        exact absurd hdeep' hdeep
    | ok x =>
      rcases hok (n := N) hn with hsame | ⟨e', he', hdeep'⟩
      · cases h.symm.trans hsame
      · cases h.symm.trans he'
        exact absurd hdeep' hdeep

end Decode

theorem Expr.decode_error_of_limit {code : List UInt8} {d : Defect}
    (h : decode N code = .error d) (hdeep : ¬ d.IsDeep N) (n : Nat) :
    decode n code = .error d ∨
      ∃ d', decode n code = .error d' ∧ d'.IsDeep n ∧ d'.report.offset < d.report.offset := by
  apply Decode.error_of_limit (fun n => decode n code) (fun d => d.report.offset)
    decode_preempted ?_ h hdeep
  intro n N e h
  obtain ⟨visits, -, -, hfits, hrefused⟩ := decode_of_limit h n
  rcases Nat.lt_or_ge n e.nesting with hlt | hle
  · obtain ⟨v, -, hv⟩ := hrefused hlt
    exact .inr ⟨_, hv, rfl, rfl⟩
  · exact .inl (hfits hle)

theorem Module.decode_error_of_limit {strict : Bool} {data : List UInt8} {f : DecodeFailure}
    (h : decode ⟨strict, N⟩ data = .error f) (hdeep : ¬ f.defect.IsDeep N) (n : Nat) :
    decode ⟨strict, n⟩ data = .error f ∨
      ∃ f', decode ⟨strict, n⟩ data = .error f' ∧ f'.defect.IsDeep n ∧ f'.offset < f.offset := by
  apply Decode.error_of_limit (fun n => decode ⟨strict, n⟩ data) DecodeFailure.offset
    (fun hlt h => decode_preempted (Decode.bodiesPreempt_limits hlt) h) ?_ h hdeep
  intro n N m h
  obtain ⟨layout, -, -, -, hfits, hrefused⟩ := decode_of_limit h n
  by_cases hle : ∀ fb ∈ m.bodies, fb.body.nesting ≤ n
  · exact .inl (hfits hle)
  · obtain ⟨v, places, -, hv⟩ := hrefused (by simpa using hle)
    exact .inr ⟨_, hv, rfl, rfl⟩

namespace Decode

/-- The nesting limit is exact and changes nothing else. What is decoded under one limit is decoded
under another one that it nests within, and is otherwise refused at the first structured instruction
that a walk finds at the depth of the limit. What fails under one limit, not because of nesting,
fails in the same way under another one or because of nesting further in front. -/
theorem nesting_exact (n N : Nat) :
    (∀ code e, Expr.decode N code = .ok e → ∃ visits, Expr.Laid 0 code e visits ∧
      visits.map (fun v => (v.depth, v.instr)) = e.walkAll ∧
      (e.nesting ≤ n → Expr.decode n code = .ok e) ∧
      (n < e.nesting → ∃ v, visits.find? (·.opensAt n) = some v ∧
        Expr.decode n code = .error (.nestingTooDeep v.position n))) ∧
    (∀ code d, Expr.decode N code = .error d → ¬ d.IsDeep N → Expr.decode n code = .error d ∨
      ∃ d', Expr.decode n code = .error d' ∧ d'.IsDeep n ∧ d'.report.offset < d.report.offset) ∧
    (∀ strict data m, Module.decode ⟨strict, N⟩ data = .ok m →
      ∃ layout, Module.Laid data m layout ∧
        (layout.flatMap (·.bodies)).map (·.body) = m.bodies ∧
        (∀ b ∈ layout.flatMap (·.bodies),
          b.visits.map (fun v => (v.depth, v.instr)) = b.body.body.walkAll) ∧
        ((∀ fb ∈ m.bodies, fb.body.nesting ≤ n) → Module.decode ⟨strict, n⟩ data = .ok m) ∧
        ((∃ fb ∈ m.bodies, n < fb.body.nesting) → ∃ v places,
          ((layout.flatMap (·.bodies)).flatMap (·.visits)).find? (·.opensAt n) = some v ∧
          Module.decode ⟨strict, n⟩ data = .error ⟨places, .nestingTooDeep v.position n⟩)) ∧
    ∀ strict data f, Module.decode ⟨strict, N⟩ data = .error f → ¬ f.defect.IsDeep N →
      Module.decode ⟨strict, n⟩ data = .error f ∨
        ∃ f', Module.decode ⟨strict, n⟩ data = .error f' ∧ f'.defect.IsDeep n ∧
          f'.offset < f.offset := by
  exact ⟨fun code e h => Expr.decode_of_limit h n,
    fun code d h hdeep => Expr.decode_error_of_limit h hdeep n,
    fun strict data m h => Module.decode_of_limit h n,
    fun strict data f h hdeep => Module.decode_error_of_limit h hdeep n⟩

/-- A loop in the else of a conditional in a block, and what is no opcode behind them. -/
theorem nesting_exact_loop :
    let front : List UInt8 := [0x02, 0x40, 0x04, 0x40, 0x05, 0x03, 0x40, 0x0B, 0x0B, 0x0B]
    let e : Expr := .cons (.block .block .empty (.cons (.cond .empty (.close .otherwise)
      (.cons (.block .loop .empty (.close .close)) (.close .close))) (.close .close)))
      (.close .close)
    let d : Defect := .invalidOpcode 10 0xFF
    (Expr.decode 3 (front ++ [0x0B]) = .ok e ∧ 2 < e.nesting ∧
      ∃ visits v, Expr.Laid 0 (front ++ [0x0B]) e visits ∧
        visits.find? (·.opensAt 2) = some v ∧ v.position = 5) ∧
    Expr.decode 3 (front ++ [0xFF]) = .error d ∧ ¬ d.IsDeep 3 ∧
      ∃ d', Expr.decode 2 (front ++ [0xFF]) = .error d' ∧ d'.IsDeep 2 ∧
        d'.report.offset < d.report.offset := by
  intro front e d
  obtain ⟨hok, herror, -, -⟩ := nesting_exact 2 3
  refine ⟨?_, ?_⟩
  · have h : Expr.decode 3 (front ++ [0x0B]) = .ok e := by decide +kernel
    have h' : Expr.decode 2 (front ++ [0x0B]) = .error (.nestingTooDeep 5 2) := by decide +kernel
    have hdeep : 2 < e.nesting := by decide +kernel
    obtain ⟨visits, hvisits, -, -, hrefused⟩ := hok _ _ h
    obtain ⟨v, hfirst, hv⟩ := hrefused hdeep
    have hposition : v.position = 5 := (Defect.nestingTooDeep.inj (Except.error.inj
      (hv.symm.trans h'))).1
    exact ⟨h, hdeep, visits, v, hvisits, hfirst, hposition⟩
  · have h : Expr.decode 3 (front ++ [0xFF]) = .error d := by decide +kernel
    have h' : Expr.decode 2 (front ++ [0xFF]) = .error (.nestingTooDeep 5 2) := by decide +kernel
    have hdeep : ¬ d.IsDeep 3 := fun hd => absurd hd.1 (by decide)
    rcases herror _ _ h hdeep with hsame | hearly
    · exact absurd (Except.error.inj (h'.symm.trans hsame)) (by decide)
    · exact ⟨h, hdeep, hearly⟩

end Decode

end WasmScope

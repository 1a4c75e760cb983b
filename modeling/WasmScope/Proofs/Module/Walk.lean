import WasmScope.Module.Walk

namespace WasmScope

def Instr.nested : Instr → List Expr
  | .block _ _ body => [body]
  | .cond _ thn els => [thn, els]
  | .localVar _ _ | .const _ | .numeric _ | .branch _ _ => []

/-- The instruction stands in the expression, with `depth` structured instructions around it. -/
inductive Expr.Holds (i : Instr) : (depth : Nat) → Expr → Prop
  | head {tail : Expr} : Holds i 0 (.cons i tail)
  | tail {depth : Nat} {head : Instr} {tail : Expr} (later : Holds i depth tail) :
      Holds i depth (.cons head tail)
  | nested {depth : Nat} {head : Instr} {tail e : Expr} (part : e ∈ head.nested)
      (inner : Holds i depth e) : Holds i (depth + 1) (.cons head tail)

theorem Instr.visits_eq (descend : Instr → Bool) (i : Instr) (depth : Nat) :
    i.visits descend depth = (depth, i) ::
      if descend i then i.nested.flatMap (·.visits descend (depth + 1)) else [] := by
  cases i <;> simp [visits, nested]

theorem Instr.visits_all (i : Instr) (depth : Nat) :
    i.visits (fun _ => true) depth =
      (depth, i) :: i.nested.flatMap (·.visits (fun _ => true) (depth + 1)) := by
  rw [visits_eq, if_pos rfl]

theorem Instr.sizeOf_nested {i : Instr} {e : Expr} (h : e ∈ i.nested) : sizeOf e < sizeOf i := by
  cases i with
  | block shape type body =>
    obtain rfl := List.mem_singleton.1 h
    rw [block.sizeOf_spec]
    omega
  | cond type thn els =>
    rw [cond.sizeOf_spec]
    rcases List.mem_cons.1 h with rfl | h
    · omega
    · obtain rfl := List.mem_singleton.1 h
      omega
  | localVar => cases h
  | const => cases h
  | numeric => cases h
  | branch => cases h

/-- Induction on an expression and, at the same time, on the expressions nested in it. -/
@[elab_as_elim]
theorem Expr.nestedInduction {motive : Expr → Prop} (close : ∀ t, motive (.close t))
    (cons : ∀ head tail, (∀ e ∈ head.nested, motive e) → motive tail → motive (.cons head tail))
    (e : Expr) : motive e := by
  match e with
  | .close t => exact close t
  | .cons head tail =>
    apply cons
    · intro e he
      have := Instr.sizeOf_nested he
      exact nestedInduction close cons e
    · exact nestedInduction close cons tail
termination_by sizeOf e
decreasing_by
  · rw [Expr.cons.sizeOf_spec]
    omega
  · rw [Expr.cons.sizeOf_spec]
    omega

namespace Expr

theorem holds_cons_iff {i head : Instr} {tail : Expr} {depth : Nat} :
    (cons head tail).Holds i depth ↔ (depth = 0 ∧ i = head) ∨
      (∃ e ∈ head.nested, ∃ k, e.Holds i k ∧ depth = k + 1) ∨ tail.Holds i depth := by
  constructor
  · intro h
    cases h with
    | head => exact .inl ⟨rfl, rfl⟩
    | tail later => exact .inr (.inr later)
    | nested part inner => exact .inr (.inl ⟨_, part, _, inner, rfl⟩)
  · intro h
    rcases h with ⟨rfl, rfl⟩ | ⟨e, he, k, hk, rfl⟩ | h
    · exact .head
    · exact .nested he hk
    · exact .tail h

theorem mem_visits_iff {i : Instr} {d : Nat} (e : Expr) (depth : Nat) :
    (d, i) ∈ e.visits (fun _ => true) depth ↔ ∃ k, e.Holds i k ∧ d = depth + k := by
  induction e using nestedInduction generalizing depth with
  | close t =>
    constructor
    · intro h
      cases h
    · intro h
      obtain ⟨k, hk, -⟩ := h
      cases hk
  | cons head tail ihnested ihtail =>
    have hhead : (d, i) ∈ head.visits (fun _ => true) depth ↔ (d = depth ∧ i = head) ∨
        ∃ e ∈ head.nested, ∃ k, e.Holds i k ∧ d = depth + 1 + k := by
      rw [Instr.visits_all, List.mem_cons, Prod.mk.injEq, List.mem_flatMap]
      apply or_congr_right
      apply exists_congr
      intro e
      apply and_congr_right
      intro he
      exact ihnested e he (depth + 1)
    rw [visits, List.mem_append, hhead, ihtail depth]
    constructor
    · intro h
      rcases h with (⟨rfl, rfl⟩ | ⟨e, he, k, hk, rfl⟩) | ⟨k, hk, rfl⟩
      · exact ⟨0, .head, rfl⟩
      · exact ⟨k + 1, .nested he hk, by omega⟩
      · exact ⟨k, .tail hk, rfl⟩
    · intro h
      obtain ⟨k, hk, rfl⟩ := h
      rcases holds_cons_iff.1 hk with ⟨rfl, rfl⟩ | ⟨e, he, j, hj, rfl⟩ | hk
      · exact .inl (.inl ⟨rfl, rfl⟩)
      · exact .inl (.inr ⟨e, he, j, hj, by omega⟩)
      · exact .inr ⟨k, hk, rfl⟩

theorem mem_walkAll_iff {e : Expr} {depth : Nat} {i : Instr} :
    (depth, i) ∈ e.walkAll ↔ e.Holds i depth := by
  rw [walkAll, walk, mem_visits_iff]
  simp

end Expr

/-- A pass over parts, each of which is worked through like its list, works through all the lists
in turn. -/
theorem foldl_eq_of_flatMap {α β σ : Type} {step : σ → α → σ} {list : α → List β}
    (work : σ → List β → σ) (hnil : ∀ s, work s [] = s)
    (happend : ∀ s xs ys, work s (xs ++ ys) = work (work s xs) ys) {parts : List α}
    (hpart : ∀ x ∈ parts, ∀ s, step s x = work s (list x)) (s : σ) :
    parts.foldl step s = work s (parts.flatMap list) := by
  induction parts generalizing s with
  | nil => exact (hnil s).symm
  | cons x parts ih =>
    obtain ⟨hx, hparts⟩ := List.forall_mem_cons.1 hpart
    rw [List.foldl_cons, List.flatMap_cons, happend, ← hx, ih hparts]

theorem Instr.walkWith_eq {σ : Type} (visit : Nat → Instr → σ → Bool × σ) (i : Instr)
    (depth : Nat) (s : σ) :
    i.walkWith visit depth s =
      if (visit depth i s).1 then
        i.nested.foldl (fun s e => e.walkWith visit (depth + 1) s) (visit depth i s).2
      else (visit depth i s).2 := by
  cases i with
  | block shape type body =>
    rw [walkWith]
    rcases visit depth (block shape type body) s with ⟨_ | _, s'⟩ <;> rfl
  | cond type thn els =>
    rw [walkWith]
    rcases visit depth (cond type thn els) s with ⟨_ | _, s'⟩ <;> rfl
  | localVar => exact (ite_self _).symm
  | const => exact (ite_self _).symm
  | numeric => exact (ite_self _).symm
  | branch => exact (ite_self _).symm

namespace Expr

/-- Where the state has no say in which way it goes, a walk is a fold over the visits. -/
theorem walkWith_foldl {σ : Type} (descend : Instr → Bool) (f : σ → Nat × Instr → σ) (e : Expr)
    (depth : Nat) (s : σ) :
    e.walkWith (fun depth i s => (descend i, f s (depth, i))) depth s =
      (e.visits descend depth).foldl f s := by
  induction e using nestedInduction generalizing depth s with
  | close t => rfl
  | cons head tail ihnested ihtail =>
    have hnested := foldl_eq_of_flatMap (fun s visits => visits.foldl f s) (fun _ => rfl)
      (fun _ _ _ => List.foldl_append) (fun e he => ihnested e he (depth + 1))
    rw [walkWith, visits, List.foldl_append, ihtail, Instr.walkWith_eq, Instr.visits_eq]
    dsimp only
    rw [List.foldl_cons]
    split
    · rw [hnested]
    · rfl

/-- A walk that keeps the first fault finds the one that comes first among all visits, although it
does not make those below the place where it is. -/
theorem walkWith_keepFirst {α : Type} (check : Nat → Instr → Option α) (e : Expr) (depth : Nat)
    (found : Option α) :
    e.walkWith (keepFirst check) depth found =
      found.or ((e.visits (fun _ => true) depth).findSome? fun x => check x.1 x.2) := by
  induction e using nestedInduction generalizing depth found with
  | close t => exact (Option.or_none).symm
  | cons head tail ihnested ihtail =>
    have happend (found : Option α) (xs ys : List (Nat × Instr)) :
        found.or ((xs ++ ys).findSome? fun x => check x.1 x.2) =
          (found.or (xs.findSome? fun x => check x.1 x.2)).or
            (ys.findSome? fun x => check x.1 x.2) := by
      rw [List.findSome?_append, Option.or_assoc]
    have hhead : head.walkWith (keepFirst check) depth found =
        found.or ((head.visits (fun _ => true) depth).findSome? fun x => check x.1 x.2) := by
      rw [Instr.walkWith_eq, Instr.visits_all, List.findSome?_cons]
      dsimp only
      cases found with
      | some fault => rfl
      | none =>
        cases hcheck : check depth head with
        | some fault =>
          have hvisit : keepFirst check depth head none = (false, some fault) := by
            rw [keepFirst, hcheck, Option.isNone_some]
          rw [hvisit]
          rfl
        | none =>
          have hvisit : keepFirst check depth head none = (true, none) := by
            rw [keepFirst, hcheck, Option.isNone_none]
          rw [hvisit]
          exact foldl_eq_of_flatMap (fun found (visits : List (Nat × Instr)) =>
              found.or (visits.findSome? fun x => check x.1 x.2))
            (fun _ => Option.or_none) happend (fun e he => ihnested e he (depth + 1)) none
    rw [walkWith, visits, happend, ihtail, hhead]

end Expr

/-- The visits without those below an instruction that `descend` refuses: what follows it and is
deeper than it. -/
def pruned (descend : Instr → Bool) : List (Nat × Instr) → List (Nat × Instr)
  | [] => []
  | (depth, i) :: rest =>
    (depth, i) :: pruned descend (if descend i then rest else rest.dropWhile (depth < ·.1))
termination_by visits => visits.length
decreasing_by
  have := (List.dropWhile_suffix (depth < ·.1) : _ <:+ rest).length_le
  split
  · exact Nat.lt_succ_self _
  · exact Nat.lt_succ_of_le this

theorem dropWhile_append_of_stop {α : Type} {p : α → Bool} {front rest : List α}
    (inside : ∀ a ∈ front, p a = true) (stop : ∀ a ∈ rest.head?, p a = false) :
    (front ++ rest).dropWhile p = rest := by
  rw [List.dropWhile_append_of_pos inside]
  cases rest with
  | nil => rfl
  | cons a rest => exact List.dropWhile_cons_of_neg (Bool.eq_false_iff.1 (stop a rfl))

theorem takeWhile_append_of_stop {α : Type} {p : α → Bool} {front rest : List α}
    (inside : ∀ a ∈ front, p a = true) (stop : ∀ a ∈ rest.head?, p a = false) :
    (front ++ rest).takeWhile p = front := by
  have h := List.takeWhile_append_dropWhile (p := p) (l := front ++ rest)
  rw [dropWhile_append_of_stop inside stop] at h
  exact List.append_cancel_right h

def Emerges (depth : Nat) (visits : List (Nat × Instr)) : Prop :=
  ∀ visit ∈ visits.head?, visit.1 ≤ depth

namespace Emerges

variable {depth : Nat} {rest : List (Nat × Instr)}

theorem mono {depth' : Nat} (h : Emerges depth rest) (hle : depth ≤ depth') :
    Emerges depth' rest :=
  fun visit hv => Nat.le_trans (h visit hv) hle

theorem append (h : Emerges depth rest) (e : Expr) (descend : Instr → Bool) :
    Emerges depth (e.visits descend depth ++ rest) := by
  cases e with
  | close t => exact h
  | cons head tail =>
    intro visit hv
    rw [Expr.visits, Instr.visits_eq] at hv
    cases hv
    exact Nat.le_refl depth

theorem append_flatMap (h : Emerges depth rest) (es : List Expr) (descend : Instr → Bool) :
    Emerges depth (es.flatMap (·.visits descend depth) ++ rest) := by
  induction es with
  | nil => exact h
  | cons e es ih =>
    rw [List.flatMap_cons, List.append_assoc]
    exact ih.append e descend

end Emerges

namespace Expr

theorem lt_of_mem_nested {es : List Expr} {depth : Nat} {visit : Nat × Instr}
    (h : visit ∈ es.flatMap (·.visits (fun _ => true) (depth + 1))) : depth < visit.1 := by
  obtain ⟨e, -, he⟩ := List.mem_flatMap.1 h
  obtain ⟨k, -, hk⟩ := (mem_visits_iff e (depth + 1)).1 he
  omega

theorem pruned_visits (descend : Instr → Bool) (e : Expr) (depth : Nat)
    {rest : List (Nat × Instr)} (h : Emerges depth rest) :
    pruned descend (e.visits (fun _ => true) depth ++ rest) =
      e.visits descend depth ++ pruned descend rest := by
  induction e using nestedInduction generalizing depth rest with
  | close t => rfl
  | cons head tail ihnested ihtail =>
    have hnested (es : List Expr) (hes : ∀ e ∈ es, e ∈ head.nested) {rest : List (Nat × Instr)}
        (h : Emerges (depth + 1) rest) :
        pruned descend (es.flatMap (·.visits (fun _ => true) (depth + 1)) ++ rest) =
          es.flatMap (·.visits descend (depth + 1)) ++ pruned descend rest := by
      induction es with
      | nil => rfl
      | cons e es ih =>
        rw [List.flatMap_cons, List.flatMap_cons, List.append_assoc, List.append_assoc,
          ihnested e (hes e List.mem_cons_self) _ (h.append_flatMap es _),
          ih fun e' he' => hes e' (List.mem_cons_of_mem _ he')]
    have hrest := h.append tail fun _ => true
    rw [visits, visits, Instr.visits_all, Instr.visits_eq descend, List.append_assoc,
      List.cons_append, pruned]
    split
    · rw [hnested head.nested (fun _ he => he) (hrest.mono (Nat.le_succ depth)), ihtail depth h]
      simp only [List.cons_append, List.append_assoc]
    · rw [dropWhile_append_of_stop (fun _ hv => decide_eq_true (lt_of_mem_nested hv))
        (fun v hv => decide_eq_false (Nat.not_lt.2 (hrest v hv))), ihtail depth h]
      rfl

theorem walk_eq_pruned (e : Expr) (descend : Instr → Bool) :
    e.walk descend = pruned descend e.walkAll := by
  have hend : Emerges 0 [] := nofun
  have h := pruned_visits descend e 0 hend
  rw [walkAll, walk, walk]
  simpa [pruned] using h.symm

end Expr

end WasmScope

import WasmScope.Proofs.Decode.Regular
import WasmScope.Proofs.Module.Fault

namespace WasmScope

namespace Module

/-- The pass over the bodies with its lookups: `none` where one of them is out of range. -/
def lookupBodies (m : Module) (position : Nat) : List FuncBody → Option (Option Violation)
  | [] => some none
  | fb :: rest => do
    let type ← m.functions[position]?
    let signature ← m.types[type.toNat]?
    match fb.violation? (signature.params.length.toUInt64 + fb.numLocals) m.types.length with
    | some violation => return some (.body position violation)
    | none => lookupBodies m (position + 1) rest

/-- The first violation, where every lookup can fail. -/
def lookupViolation? (m : Module) : Option (Option Violation) :=
  match functionViolation? m.types.length 0 m.functions with
  | some violation => some (some violation)
  | none =>
    if m.functions.length = m.bodies.length then
      match exportViolation? m.functions.length 0 [] m.exports with
      | some violation => some (some violation)
      | none => m.lookupBodies 0 m.bodies
    else some (some (.bodyCount m.functions.length m.bodies.length))

end Module

theorem LocalEntry.total_le (ls : List LocalEntry) : total ls ≤ ls.length * (2 ^ 32 - 1) := by
  induction ls with
  | nil => exact Nat.zero_le _
  | cons l rest ih =>
    have hl := l.count.toNat_lt
    simp only [total, List.length_cons]
    omega

theorem LocalEntry.toNat_foldl {ls : List LocalEntry} {n : UInt64}
    (h : n.toNat + total ls < 2 ^ 64) :
    (ls.foldl (fun n l => n + l.count.toUInt64) n).toNat = n.toNat + total ls := by
  induction ls generalizing n with
  | nil => rfl
  | cons l rest ih =>
    simp only [total] at h
    have hadd : (n + l.count.toUInt64).toNat = n.toNat + l.count.toNat := by
      rw [UInt64.toNat_add, UInt32.toNat_toUInt64, Nat.mod_eq_of_lt (by omega)]
    rw [List.foldl_cons, ih (by omega), hadd, total, Nat.add_assoc]

theorem Module.toNat_localCount {m : Module} (hm : m.Bounded) {fb : FuncBody} (hfb : fb ∈ m.bodies)
    {type : UInt32} {signature : FuncType} (ht : m.types[type.toNat]? = some signature) :
    (m.localCount type fb).toNat = signature.params.length + LocalEntry.total fb.locals := by
  have hparams := hm.params signature (List.mem_of_getElem? ht)
  have hlocals := hm.locals fb hfb
  have htotal := LocalEntry.total_le fb.locals
  simp only [UInt32.size] at hparams hlocals
  have hn : fb.numLocals.toNat = LocalEntry.total fb.locals := by
    rw [FuncBody.numLocals, LocalEntry.toNat_foldl]
    · simp
    · simp only [UInt64.toNat_zero]
      omega
  have hp : (m.paramCount type).toUInt64.toNat = signature.params.length := by
    simp only [paramCount, ht]
    exact Nat.mod_eq_of_lt (by omega)
  rw [localCount, UInt64.toNat_add, hn, hp]
  exact Nat.mod_eq_of_lt (by omega)

theorem BlockType.Regular.natural {bt : BlockType} (h : bt.Regular) (kind : bt.kind = .typeIndex) :
    0 ≤ bt.typeIndex := by
  cases h with
  | empty => simp [BlockKind.empty, BlockKind.typeIndex] at kind
  | value => simp [BlockKind.value, BlockKind.typeIndex] at kind
  | typeIndex natural => exact natural

namespace Instr

variable {i : Instr} {depth types : Nat}

theorem Regular.natural (h : i.Regular) {bt : BlockType} (hbt : i.blockType? = some bt) :
    bt.kind = .typeIndex → 0 ≤ bt.typeIndex := by
  cases i with
  | block =>
    cases hbt
    exact h.1.natural
  | cond =>
    cases hbt
    exact h.1.natural
  | localVar => cases hbt
  | const => cases hbt
  | numeric => cases hbt
  | branch => cases hbt

theorem violation?_eq_some_iff {locals : UInt64} {v : BodyViolation} :
    i.violation? depth locals types = some v ↔ i.Fault depth locals.toNat types v := by
  cases i with
  | localVar access index =>
    simp only [violation?, Fault, Option.ite_none_right_eq_some, Option.some.injEq,
      UInt64.le_iff_toNat_le, UInt32.toNat_toUInt64, UInt64.ofNat_toNat]
  | branch mode label =>
    simp only [violation?, Fault, Option.ite_none_right_eq_some, Option.some.injEq]
  | block shape type body =>
    simp only [violation?, BlockType.violation?, Fault, Option.ite_none_right_eq_some,
      Option.some.injEq]
  | cond type thn els =>
    simp only [violation?, BlockType.violation?, Fault, Option.ite_none_right_eq_some,
      Option.some.injEq]
  | const value => simp only [violation?, Fault, reduceCtorEq]
  | numeric op => simp only [violation?, Fault, reduceCtorEq]

end Instr

theorem drop_eq_cons_iff {α : Type} {l rest : List α} {p : Nat} {x : α} :
    l.drop p = x :: rest ↔ l[p]? = some x ∧ l.drop (p + 1) = rest := by
  constructor
  · intro h
    rw [← List.head?_drop, ← List.tail_drop, h]
    exact ⟨rfl, rfl⟩
  · rintro ⟨h, rfl⟩
    obtain ⟨hp, rfl⟩ := List.getElem?_eq_some_iff.1 h
    exact List.drop_eq_getElem_cons hp

namespace Module

variable {m : Module} {v v' : Violation} {r : Option Violation}

/-- What a search finds that starts at a site: the violation of the first fault which is not before
the site, or nothing when there is no such fault. -/
def FirstFrom (m : Module) (s : Site) : Option Violation → Prop
  | none => ∀ t v, m.Fault t v → t.Before s
  | some v => ∃ t, m.Fault t v ∧ ¬ t.Before s ∧
      ∀ t' v', m.Fault t' v' → ¬ t'.Before s → (t' = t ∧ v' = v) ∨ t.Before t'

theorem FirstFrom.hit {s : Site} (h : m.Fault s v) : m.FirstFrom s (some v) := by
  refine ⟨s, h, by simp [Site.Before], ?_⟩
  intro t v' hv' ht
  by_cases heq : t = s
  · subst heq
    exact .inl ⟨rfl, h.unique hv'⟩
  · rw [Site.mk.injEq] at heq
    simp only [Site.Before] at ht ⊢
    omega

theorem FirstFrom.skip {s t : Site} (hst : ¬ t.Before s)
    (h : ∀ u v, ¬ u.Before s → u.Before t → ¬ m.Fault u v) (hr : m.FirstFrom t r) :
    m.FirstFrom s r := by
  cases r with
  | none =>
    intro u v hu
    by_contra hus
    exact h u v hus (hr u v hu) hu
  | some v =>
    obtain ⟨u, hu, hut, hfirst⟩ := hr
    refine ⟨u, hu, ?_, ?_⟩
    · intro hus
      apply hut
      simp only [Site.Before] at *
      omega
    · intro u' v' hu' hus'
      exact hfirst u' v' hu' fun hut' => h u' v' hus' hut' hu'

section Skips

variable {pass p j : Nat}

theorem FirstFrom.next_step {k : Nat} (hjk : j ≤ k)
    (h : ∀ step v, step < k → ¬ m.Fault ⟨pass, p, step⟩ v)
    (hr : m.FirstFrom ⟨pass, p, k⟩ r) : m.FirstFrom ⟨pass, p, j⟩ r := by
  apply hr.skip
  · simp only [Site.Before]
    omega
  · intro ⟨pass', p', step⟩ v hfrom hto
    simp only [Site.Before] at hfrom hto
    obtain ⟨rfl, rfl, hstep⟩ : pass' = pass ∧ p' = p ∧ step < k := by omega
    exact h step v hstep

theorem FirstFrom.next_entry (h : ∀ step v, j ≤ step → ¬ m.Fault ⟨pass, p, step⟩ v)
    (hr : m.FirstFrom ⟨pass, p + 1, 0⟩ r) : m.FirstFrom ⟨pass, p, j⟩ r := by
  apply hr.skip
  · simp only [Site.Before]
    omega
  · intro ⟨pass', p', step⟩ v hfrom hto
    simp only [Site.Before] at hfrom hto
    obtain ⟨rfl, rfl, hstep⟩ : pass' = pass ∧ p' = p ∧ j ≤ step := by omega
    exact h step v hstep

theorem FirstFrom.next_pass (h : ∀ entry step v, p ≤ entry → ¬ m.Fault ⟨pass, entry, step⟩ v)
    (hr : m.FirstFrom ⟨pass + 1, 0, 0⟩ r) : m.FirstFrom ⟨pass, p, 0⟩ r := by
  apply hr.skip
  · simp only [Site.Before]
    omega
  · intro ⟨pass', p', step⟩ v hfrom hto
    simp only [Site.Before] at hfrom hto
    obtain ⟨rfl, hp⟩ : pass' = pass ∧ p ≤ p' := by omega
    exact h p' step v hp

end Skips

theorem firstFrom_functions {rest : List UInt32} {p : Nat} (hrest : m.functions.drop p = rest)
    (hr : functionViolation? m.types.length p rest = none → m.FirstFrom ⟨1, 0, 0⟩ r) :
    m.FirstFrom ⟨0, p, 0⟩ (functionViolation? m.types.length p rest <|> r) := by
  induction rest generalizing p with
  | nil =>
    apply FirstFrom.next_pass _ (hr rfl)
    intro entry step v hp hv
    cases hv with
    | functionType found =>
      have hlt := (List.getElem?_eq_some_iff.1 found).1
      have hle := List.drop_eq_nil_iff.1 hrest
      omega
  | cons type rest ih =>
    obtain ⟨hentry, hrest⟩ := drop_eq_cons_iff.1 hrest
    rw [functionViolation?] at hr ⊢
    by_cases hpast : m.types.length ≤ type.toNat
    · rw [if_pos hpast]
      exact .hit (.functionType hentry hpast)
    · rw [if_neg hpast] at hr ⊢
      apply FirstFrom.next_entry _ (ih hrest hr)
      intro step v _ hv
      cases hv with
      | functionType entry past =>
        cases hentry.symm.trans entry
        exact hpast past

theorem firstFrom_bodyCount
    (hr : m.functions.length = m.bodies.length → m.FirstFrom ⟨2, 0, 0⟩ r) :
    m.FirstFrom ⟨1, 0, 0⟩ ((if m.functions.length = m.bodies.length then none
      else some (.bodyCount m.functions.length m.bodies.length)) <|> r) := by
  by_cases hcount : m.functions.length = m.bodies.length
  · rw [if_pos hcount]
    apply FirstFrom.next_pass _ (hr hcount)
    intro entry step v _ hv
    cases hv with
    | bodyCount differ => exact differ hcount
  · rw [if_neg hcount]
    exact .hit (.bodyCount hcount)

theorem firstFrom_exports {rest : List Export} {seen : List String} {p : Nat}
    (hrest : m.exports.drop p = rest)
    (hseen : ∀ name, name ∈ seen ↔ name ∈ (m.exports.take p).map Export.name)
    (hr : m.FirstFrom ⟨3, 0, 0⟩ r) :
    m.FirstFrom ⟨2, p, 0⟩ (exportViolation? m.functions.length p seen rest <|> r) := by
  induction rest generalizing p seen with
  | nil =>
    have hle := List.drop_eq_nil_iff.1 hrest
    apply FirstFrom.next_pass _ hr
    intro entry step v hp hv
    cases hv with
    | duplicateExport found =>
      have hlt := (List.getElem?_eq_some_iff.1 found).1
      omega
    | exportTarget found =>
      have hlt := (List.getElem?_eq_some_iff.1 found).1
      omega
  | cons e rest ih =>
    obtain ⟨hentry, hrest⟩ := drop_eq_cons_iff.1 hrest
    rw [exportViolation?]
    by_cases hname : e.name ∈ seen
    · rw [if_pos hname]
      exact .hit (.duplicateExport hentry ((hseen _).1 hname))
    · rw [if_neg hname]
      -- the name is new, so the fault of this entry, if any, is that of its target
      apply FirstFrom.next_step (k := 1) (Nat.zero_le 1)
      · intro step v hstep hv
        cases hv with
        | duplicateExport entry earlier =>
          cases hentry.symm.trans entry
          exact hname ((hseen _).2 earlier)
        | exportTarget => omega
      by_cases htarget : e.kind = .func ∧ m.functions.length ≤ e.index.toNat
      · rw [if_pos htarget]
        exact .hit (.exportTarget hentry htarget.1 htarget.2)
      · rw [if_neg htarget]
        apply FirstFrom.next_entry
        · intro step v hstep hv
          cases hv with
          | duplicateExport => omega
          | exportTarget entry kind past =>
            cases hentry.symm.trans entry
            exact htarget ⟨kind, past⟩
        · apply ih hrest
          intro name
          rw [List.take_add_one, hentry, List.map_append, List.mem_append, List.mem_cons, hseen]
          simp [or_comm]

theorem fault_body_iff (hm : m.Bounded) {p : Nat} {fb : FuncBody} {signature : FuncType}
    {type : UInt32} (hfb : m.bodies[p]? = some fb) (hf : m.functions[p]? = some type)
    (ht : m.types[type.toNat]? = some signature) (step : Nat) (v : Violation) :
    m.Fault ⟨3, p, step⟩ v ↔ ∃ depth i w, fb.body.walkAll[step]? = some (depth, i) ∧
      i.violation? depth (m.localCount type fb) m.types.length = some w ∧ v = .body p w := by
  have hbody : m.HasBody p fb signature := ⟨hfb, type, hf, ht⟩
  have hcount := toNat_localCount hm (List.mem_of_getElem? hfb) ht
  constructor
  · intro h
    cases h with
    | @body _ _ depth _ _ i w entry visit fault =>
      obtain ⟨rfl, rfl⟩ := hbody.unique entry
      rw [← hcount] at fault
      exact ⟨depth, i, w, visit, Instr.violation?_eq_some_iff.2 fault, rfl⟩
  · intro h
    obtain ⟨depth, i, w, visit, hw, rfl⟩ := h
    have fault := Instr.violation?_eq_some_iff.1 hw
    rw [hcount] at fault
    exact .body hbody visit fault

theorem firstFrom_bodies (hm : m.Bounded)
    (htypes : ∀ type ∈ m.functions, type.toNat < m.types.length)
    {rest : List (UInt32 × FuncBody)} {p : Nat} (hrest : (m.functions.zip m.bodies).drop p = rest) :
    m.FirstFrom ⟨3, p, 0⟩ (m.bodyViolation? p rest) := by
  induction rest generalizing p with
  | nil =>
    have hle := List.drop_eq_nil_iff.1 hrest
    intro t v hv
    cases hv with
    | functionType => exact .inl (by simp)
    | bodyCount => exact .inl (by simp)
    | duplicateExport => exact .inl (by simp)
    | exportTarget => exact .inl (by simp)
    | body entry =>
      obtain ⟨hfb, type, hf, -⟩ := entry
      have hzip := List.getElem?_zip_eq_some.2 (⟨hf, hfb⟩ : _ = some (type, _).1 ∧ _)
      have hlt := (List.getElem?_eq_some_iff.1 hzip).1
      exact .inr ⟨rfl, .inl (hlt.trans_le hle)⟩
  | cons x rest ih =>
    obtain ⟨type, fb⟩ := x
    obtain ⟨hentry, hrest⟩ := drop_eq_cons_iff.1 hrest
    obtain ⟨hf, hfb⟩ := List.getElem?_zip_eq_some.1 hentry
    have hlt := htypes type (List.mem_of_getElem? hf)
    have hfault := fault_body_iff hm hfb hf (List.getElem?_eq_getElem hlt)
    rw [bodyViolation?, FuncBody.violation?_eq]
    cases hfound : fb.body.walkAll.findSome? fun x =>
        x.2.violation? x.1 (m.localCount type fb) m.types.length with
    | none =>
      apply FirstFrom.next_entry _ (ih hrest)
      intro step v _ hv
      obtain ⟨depth, i, w, visit, hw, -⟩ := (hfault step v).1 hv
      have hnone := List.findSome?_eq_none_iff.1 hfound _ (List.mem_of_getElem? visit)
      cases hnone.symm.trans hw
    | some w =>
      obtain ⟨before, ⟨depth, i⟩, after, hwalk, hw, hbefore⟩ := List.findSome?_eq_some_iff.1 hfound
      apply FirstFrom.next_step (Nat.zero_le before.length)
      · intro step v hstep hv
        obtain ⟨depth', i', w', visit, hw', -⟩ := (hfault step v).1 hv
        rw [hwalk, List.getElem?_append_left hstep] at visit
        cases (hbefore _ (List.mem_of_getElem? visit)).symm.trans hw'
      · apply FirstFrom.hit
        apply (hfault _ _).2
        refine ⟨depth, i, w, ?_, hw, rfl⟩
        rw [hwalk]
        simp

theorem functionViolation?_eq_none_iff {types p : Nat} {fs : List UInt32} :
    functionViolation? types p fs = none ↔ ∀ type ∈ fs, type.toNat < types := by
  induction fs generalizing p with
  | nil => simp [functionViolation?]
  | cons type rest ih =>
    rw [functionViolation?, List.forall_mem_cons, ← Nat.not_le, ← @ih (p + 1)]
    split <;> simp [*]

theorem violation?_first (hm : m.Bounded) : m.FirstFrom ⟨0, 0, 0⟩ m.violation? := by
  apply firstFrom_functions List.drop_zero
  intro hfunctions
  apply firstFrom_bodyCount
  intro _
  apply firstFrom_exports List.drop_zero
  · simp
  · exact firstFrom_bodies hm (functionViolation?_eq_none_iff.1 hfunctions) List.drop_zero

theorem lookupBodies_eq (htypes : ∀ type ∈ m.functions, type.toNat < m.types.length)
    (hcount : m.functions.length = m.bodies.length) {rest : List FuncBody} {p : Nat}
    (hrest : m.bodies.drop p = rest) :
    m.lookupBodies p rest = some (m.bodyViolation? p ((m.functions.zip m.bodies).drop p)) := by
  induction rest generalizing p with
  | nil =>
    have hle := List.drop_eq_nil_iff.1 hrest
    have hzip : (m.functions.zip m.bodies).drop p = [] := by
      rw [List.drop_eq_nil_iff, List.length_zip]
      omega
    rw [hzip]
    rfl
  | cons fb rest ih =>
    obtain ⟨hfb, hrest⟩ := drop_eq_cons_iff.1 hrest
    have hp : p < m.functions.length := by
      rw [hcount]
      exact (List.getElem?_eq_some_iff.1 hfb).1
    have hf := List.getElem?_eq_getElem hp
    have ht := List.getElem?_eq_getElem (htypes _ (List.mem_of_getElem? hf))
    have hzip : (m.functions.zip m.bodies).drop p =
        (m.functions[p], fb) :: (m.functions.zip m.bodies).drop (p + 1) :=
      drop_eq_cons_iff.2 ⟨List.getElem?_zip_eq_some.2 ⟨hf, hfb⟩, rfl⟩
    rw [hzip, lookupBodies, bodyViolation?, localCount, paramCount, hf]
    simp only [Option.bind_eq_bind, Option.bind_some, ht]
    cases fb.violation? (_ + fb.numLocals) m.types.length with
    | some v => rfl
    | none => exact ih hrest

theorem lookupViolation?_eq (m : Module) : m.lookupViolation? = some m.violation? := by
  rw [lookupViolation?, violation?]
  cases hfunctions : functionViolation? m.types.length 0 m.functions with
  | some v => rfl
  | none =>
    by_cases hcount : m.functions.length = m.bodies.length
    · rw [if_pos hcount, if_pos hcount]
      cases exportViolation? m.functions.length 0 [] m.exports with
      | some v => rfl
      | none =>
        exact lookupBodies_eq (functionViolation?_eq_none_iff.1 hfunctions) hcount List.drop_zero
    · rw [if_neg hcount, if_neg hcount]
      rfl

theorem Written.bounded {options : DecodeOptions} {data : List UInt8}
    (h : Written options data m) : m.Bounded := by
  refine ⟨?_, ?_, ?_⟩
  · intro fb hfb i depth hi bt hbt kind
    obtain ⟨_, -, body⟩ := h.body_part hfb
    exact (body.regular.instrs i depth hi).natural hbt kind
  · intro fb hfb
    obtain ⟨_, -, body⟩ := h.body_part hfb
    obtain ⟨_, _, locals, _, _⟩ := body
    exact locals.length_lt
  · intro t ht
    obtain ⟨_, -, type⟩ := h.type_part ht
    obtain ⟨params, _⟩ := type
    exact params.length_lt

/-- Decoded modules are bounded. For a bounded module no lookup is out of range, validation accepts
it exactly if it is well formed, and else fails with the violation of its first fault. -/
theorem validate_first_fault :
    (∀ {options : DecodeOptions} {data : List UInt8} {m : Module},
      decode options data = .ok m → m.Bounded) ∧
    ∀ {m : Module}, m.Bounded →
      m.lookupViolation? = some m.violation? ∧
      (m.validate = .ok () ↔ m.WellFormed) ∧
      (¬ m.WellFormed → ∃ t v, m.Fault t v ∧ m.validate = .error v.failure ∧
        ∀ t' v', m.Fault t' v' → (t' = t ∧ v' = v) ∨ t.Before t') := by
  refine ⟨fun h => (decode_eq_ok_iff.1 h).bounded, ?_⟩
  intro m hm
  have hfirst := violation?_first hm
  rw [wellFormed_iff hm]
  refine ⟨m.lookupViolation?_eq, ?_⟩
  rw [validate]
  cases hv : m.violation? with
  | none =>
    rw [hv] at hfirst
    have hnone : ∀ t v, ¬ m.Fault t v := by
      intro t v ht
      have hbefore := hfirst t v ht
      simp only [Site.Before] at hbefore
      omega
    exact ⟨iff_of_true rfl hnone, fun h => absurd hnone h⟩
  | some v =>
    rw [hv] at hfirst
    obtain ⟨t, ht, -, hleast⟩ := hfirst
    have hsome : ¬ ∀ t v, ¬ m.Fault t v := fun h => h t v ht
    refine ⟨iff_of_false nofun hsome, fun _ => ⟨t, v, ht, rfl, ?_⟩⟩
    intro t' v' ht'
    apply hleast t' v' ht'
    simp only [Site.Before]
    omega

/-- Sections out of order and twice; the second export has a taken name and no target, and the body
branches too far. -/
theorem validate_first_fault_export :
    let data : List UInt8 := [0x00, 0x61, 0x73, 0x6D, 1, 0, 0, 0,
      0x0A, 0x06, 0x01, 0x04, 0x00, 0x0C, 0x01, 0x0B, 0x03, 0x02, 0x01, 0x00,
      0x07, 0x05, 0x01, 0x01, 0x61, 0x00, 0x00, 0x01, 0x04, 0x01, 0x60, 0x00, 0x00,
      0x07, 0x05, 0x01, 0x01, 0x61, 0x00, 0x05]
    let m : Module := ⟨.magic, .version1, [.code [⟨4, [], .ofInstrs [.branch .always 1] .close⟩],
      .functions [0], .exports [⟨"a", .func, 0⟩], .types [⟨[], []⟩], .exports [⟨"a", .func, 5⟩]]⟩
    let v : Violation := .duplicateExport 1 "a"
    decode ⟨false, 1⟩ data = .ok m ∧ ¬ m.WellFormed ∧ m.validate = .error v.failure ∧
      ∃ t v, m.Fault t v ∧ m.validate = .error v.failure ∧
        ∀ t' v', m.Fault t' v' → (t' = t ∧ v' = v) ∨ t.Before t' := by
  intro data m v
  have hdecode : decode ⟨false, 1⟩ data = .ok m := by decide +kernel
  have hfails : m.validate = .error v.failure := by decide +kernel
  obtain ⟨-, haccepts, hfirst⟩ := validate_first_fault.2 (validate_first_fault.1 hdecode)
  have hill : ¬ m.WellFormed := fun h => nomatch hfails.symm.trans (haccepts.2 h)
  exact ⟨hdecode, hill, hfails, hfirst hill⟩

end Module

end WasmScope

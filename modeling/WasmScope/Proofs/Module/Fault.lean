import WasmScope.Module.Validate
import WasmScope.Proofs.Module.Walk

namespace WasmScope

def LocalEntry.total : List LocalEntry → Nat
  | [] => 0
  | l :: rest => l.count.toNat + total rest

/-- The walk over a body stops at what comes first among all its visits. -/
theorem FuncBody.violation?_eq (fb : FuncBody) (locals : UInt64) (types : Nat) :
    fb.violation? locals types =
      fb.body.walkAll.findSome? fun x => x.2.violation? x.1 locals types :=
  Expr.walkWith_keepFirst _ fb.body 0 none

def Instr.blockType? : Instr → Option BlockType
  | .block _ type _ | .cond type _ _ => some type
  | .localVar _ _ | .const _ | .numeric _ | .branch _ _ => none

/-- What the instruction refers to exists, given its depth and the numbers of locals and of types. -/
def Instr.Resolves (depth locals types : Nat) : Instr → Prop
  | .localVar _ index => index.toNat < locals
  | .branch _ label => label.toNat ≤ depth
  | .block _ type _ | .cond type _ _ =>
    type.kind = .typeIndex → 0 ≤ type.typeIndex ∧ type.typeIndex.toInt < types
  | .const _ | .numeric _ => True

def Instr.Fault (depth locals types : Nat) (i : Instr) (v : BodyViolation) : Prop :=
  match i with
  | .localVar _ index => locals ≤ index.toNat ∧ .localIndex index (.ofNat locals) = v
  | .branch _ label => depth < label.toNat ∧ .labelIndex label depth = v
  | .block _ type _ | .cond type _ _ =>
    (type.kind = .typeIndex ∧ types ≤ type.typeIndex.toInt) ∧
      .blockType type.typeIndex types = v
  | .const _ | .numeric _ => False

/-- A place in the order of validation: a pass, an entry that the pass comes to, and a step of the
work on that entry. -/
structure Site where
  pass : Nat
  entry : Nat
  step : Nat
deriving DecidableEq, Repr

def Site.Before (s t : Site) : Prop :=
  s.pass < t.pass ∨
    s.pass = t.pass ∧ (s.entry < t.entry ∨ s.entry = t.entry ∧ s.step < t.step)

namespace Module

/-- Numbers are as small as a file can state them, and type indices of blocks are not negative. -/
structure Bounded (m : Module) : Prop where
  blockTypes : ∀ fb ∈ m.bodies, ∀ i depth, fb.body.Holds i depth → ∀ bt, i.blockType? = some bt →
    bt.kind = .typeIndex → 0 ≤ bt.typeIndex
  locals : ∀ fb ∈ m.bodies, fb.locals.length < UInt32.size
  params : ∀ t ∈ m.types, t.params.length < UInt32.size

structure HasBody (m : Module) (p : Nat) (fb : FuncBody) (signature : FuncType) : Prop where
  body : m.bodies[p]? = some fb
  type : ∃ type, m.functions[p]? = some type ∧ m.types[type.toNat]? = some signature

structure WellFormed (m : Module) : Prop where
  functionTypes : ∀ type ∈ m.functions, type.toNat < m.types.length
  bodyCount : m.functions.length = m.bodies.length
  exportNames : (m.exports.map Export.name).Nodup
  exportTargets : ∀ e ∈ m.exports, e.kind = .func → e.index.toNat < m.functions.length
  instrs : ∀ p fb signature, m.HasBody p fb signature → ∀ i depth, fb.body.Holds i depth →
    i.Resolves depth (signature.params.length + LocalEntry.total fb.locals) m.types.length

/-- What breaks well-formedness and where: functions by index, the count of bodies, exports by index
with the name before the target, bodies by index with the instructions in the order of the walk. -/
inductive Fault (m : Module) : Site → Violation → Prop
  | functionType {p : Nat} {type : UInt32} (entry : m.functions[p]? = some type)
      (past : m.types.length ≤ type.toNat) :
      Fault m ⟨0, p, 0⟩ (.functionType p type m.types.length)
  | bodyCount (differ : m.functions.length ≠ m.bodies.length) :
      Fault m ⟨1, 0, 0⟩ (.bodyCount m.functions.length m.bodies.length)
  | duplicateExport {p : Nat} {e : Export} (entry : m.exports[p]? = some e)
      (earlier : e.name ∈ (m.exports.take p).map Export.name) :
      Fault m ⟨2, p, 0⟩ (.duplicateExport p e.name)
  | exportTarget {p : Nat} {e : Export} (entry : m.exports[p]? = some e) (kind : e.kind = .func)
      (past : m.functions.length ≤ e.index.toNat) :
      Fault m ⟨2, p, 1⟩ (.exportTarget p e.name e.index m.functions.length)
  | body {p step depth : Nat} {fb : FuncBody} {signature : FuncType} {i : Instr}
      {v : BodyViolation} (entry : m.HasBody p fb signature)
      (visit : fb.body.walkAll[step]? = some (depth, i))
      (fault : i.Fault depth (signature.params.length + LocalEntry.total fb.locals)
        m.types.length v) :
      Fault m ⟨3, p, step⟩ (.body p v)

end Module

namespace Instr

variable {i : Instr} {depth locals types : Nat}

theorem Fault.unique {v v' : BodyViolation} (h : i.Fault depth locals types v)
    (h' : i.Fault depth locals types v') : v' = v := by
  cases i with
  | localVar => exact h'.2.symm.trans h.2
  | branch => exact h'.2.symm.trans h.2
  | block => exact h'.2.symm.trans h.2
  | cond => exact h'.2.symm.trans h.2
  | const => exact h.elim
  | numeric => exact h.elim

theorem resolves_iff
    (natural : ∀ bt, i.blockType? = some bt → bt.kind = .typeIndex → 0 ≤ bt.typeIndex) :
    i.Resolves depth locals types ↔ ∀ v, ¬ i.Fault depth locals types v := by
  have hblock {bt : BlockType} (hi : i.blockType? = some bt) :
      (bt.kind = .typeIndex → 0 ≤ bt.typeIndex ∧ bt.typeIndex.toInt < types) ↔
        ¬ (bt.kind = .typeIndex ∧ (types : Int) ≤ bt.typeIndex.toInt) := by
    constructor
    · intro h hpast
      exact Int.not_le.2 (h hpast.1).2 hpast.2
    · intro h kind
      exact ⟨natural bt hi kind, Int.not_le.1 fun hpast => h ⟨kind, hpast⟩⟩
  cases i with
  | localVar access index => simp [Resolves, Fault]
  | branch mode label => simp [Resolves, Fault]
  | block shape type body =>
    rw [Resolves, hblock rfl]
    simp [Fault]
  | cond type thn els =>
    rw [Resolves, hblock rfl]
    simp [Fault]
  | const value => simp [Resolves, Fault]
  | numeric op => simp [Resolves, Fault]

end Instr

theorem nodup_iff_notMem_take {α : Type} {l : List α} :
    l.Nodup ↔ ∀ p x, l[p]? = some x → x ∉ l.take p := by
  rw [List.nodup_iff_pairwise_ne, List.pairwise_iff_getElem]
  constructor
  · intro h p x hx hmem
    obtain ⟨hp, rfl⟩ := List.getElem?_eq_some_iff.1 hx
    obtain ⟨q, hq, heq⟩ := List.mem_take_iff_getElem.1 hmem
    exact h q p (by omega) hp (by omega) heq
  · intro h q p hq hp hqp heq
    exact h p l[p] (List.getElem?_eq_getElem hp) (List.mem_take_iff_getElem.2 ⟨q, by omega, heq⟩)

namespace Module

variable {m : Module} {v v' : Violation}

theorem HasBody.unique {p : Nat} {fb fb' : FuncBody} {signature signature' : FuncType}
    (h : m.HasBody p fb signature) (h' : m.HasBody p fb' signature') :
    fb' = fb ∧ signature' = signature := by
  obtain ⟨hfb, type, hf, ht⟩ := h
  obtain ⟨hfb', type', hf', ht'⟩ := h'
  obtain rfl := Option.some.inj (hf.symm.trans hf')
  exact ⟨Option.some.inj (hfb'.symm.trans hfb), Option.some.inj (ht'.symm.trans ht)⟩

theorem Fault.unique {t : Site} (h : m.Fault t v) (h' : m.Fault t v') : v' = v := by
  cases h with
  | functionType entry =>
    cases h' with
    | functionType entry' =>
      cases entry.symm.trans entry'
      rfl
  | bodyCount =>
    cases h' with
    | bodyCount => rfl
  | duplicateExport entry =>
    cases h' with
    | duplicateExport entry' =>
      cases entry.symm.trans entry'
      rfl
  | exportTarget entry =>
    cases h' with
    | exportTarget entry' =>
      cases entry.symm.trans entry'
      rfl
  | body entry visit fault =>
    cases h' with
    | body entry' visit' fault' =>
      obtain ⟨rfl, rfl⟩ := entry.unique entry'
      cases visit.symm.trans visit'
      rw [fault.unique fault']

theorem wellFormed_iff (hm : m.Bounded) : m.WellFormed ↔ ∀ t v, ¬ m.Fault t v := by
  constructor
  · intro h t v hv
    cases hv with
    | functionType entry past =>
      exact Nat.not_lt.2 past (h.functionTypes _ (List.mem_of_getElem? entry))
    | bodyCount differ => exact differ h.bodyCount
    | duplicateExport entry earlier =>
      rw [List.map_take] at earlier
      apply nodup_iff_notMem_take.1 h.exportNames _ _ _ earlier
      rw [List.getElem?_map, entry]
      rfl
    | exportTarget entry kind past =>
      exact Nat.not_lt.2 past (h.exportTargets _ (List.mem_of_getElem? entry) kind)
    | body entry visit fault =>
      have hi := Expr.mem_walkAll_iff.1 (List.mem_of_getElem? visit)
      have hresolves := h.instrs _ _ _ entry _ _ hi
      have natural := hm.blockTypes _ (List.mem_of_getElem? entry.body) _ _ hi
      exact (Instr.resolves_iff natural).1 hresolves _ fault
  · intro h
    refine ⟨?_, ?_, ?_, ?_, ?_⟩
    · intro type htype
      obtain ⟨p, hp⟩ := List.mem_iff_getElem?.1 htype
      exact Nat.not_le.1 fun past => h _ _ (.functionType hp past)
    · exact Decidable.not_not.1 fun differ => h _ _ (.bodyCount differ)
    · apply nodup_iff_notMem_take.2
      intro p name hp hearlier
      rw [List.getElem?_map] at hp
      obtain ⟨e, he, rfl⟩ := Option.map_eq_some_iff.1 hp
      rw [← List.map_take] at hearlier
      exact h _ _ (.duplicateExport he hearlier)
    · intro e he kind
      obtain ⟨p, hp⟩ := List.mem_iff_getElem?.1 he
      exact Nat.not_le.1 fun past => h _ _ (.exportTarget hp kind past)
    · intro p fb signature hbody i depth hi
      have natural := hm.blockTypes _ (List.mem_of_getElem? hbody.body) _ _ hi
      apply (Instr.resolves_iff natural).2
      intro v hv
      obtain ⟨step, hstep⟩ := List.mem_iff_getElem?.1 (Expr.mem_walkAll_iff.2 hi)
      exact h _ _ (.body hbody hstep hv)

end Module

end WasmScope

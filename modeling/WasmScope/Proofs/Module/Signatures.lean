import WasmScope.Proofs.Module.Validity

namespace WasmScope

theorem BlockType.violation?_eq_none_iff {bt : BlockType} {types : Nat} :
    bt.violation? types = none ↔ (bt.kind = .typeIndex → bt.typeIndex.toInt < types) := by
  simp only [violation?, ite_eq_right_iff, reduceCtorEq, imp_false, not_and, Int.not_le]

theorem Instr.violation?_of_blockType {i : Instr} {bt : BlockType} (h : i.blockType? = some bt)
    (depth : Nat) (locals : UInt64) (types : Nat) :
    i.violation? depth locals types = bt.violation? types := by
  cases i with
  | block =>
    cases h
    rfl
  | cond =>
    cases h
    rfl
  | localVar => cases h
  | const => cases h
  | numeric => cases h
  | branch => cases h

theorem FuncBody.violation?_eq_none_iff {fb : FuncBody} {locals : UInt64} {types : Nat} :
    fb.violation? locals types = none ↔
      ∀ i depth, fb.body.Holds i depth → i.violation? depth locals types = none := by
  rw [violation?_eq, List.findSome?_eq_none_iff]
  constructor
  · intro h i depth hi
    exact h (depth, i) (Expr.mem_walkAll_iff.2 hi)
  · rintro h ⟨depth, i⟩ hvisit
    exact h i depth (Expr.mem_walkAll_iff.1 hvisit)

namespace Module

variable {m : Module}

/-- Some structured instruction of a body has the type with this index as its signature. -/
inductive Refers (m : Module) : Int32 → Prop
  | mk {fb : FuncBody} {i : Instr} {depth : Nat} {bt : BlockType} (body : fb ∈ m.bodies)
      (holds : fb.body.Holds i depth) (type : i.blockType? = some bt)
      (kind : bt.kind = .typeIndex) : Refers m bt.typeIndex

theorem bodyViolation?_eq_none_iff {p : Nat} {entries : List (UInt32 × FuncBody)} :
    m.bodyViolation? p entries = none ↔
      ∀ x ∈ entries, x.2.violation? (m.localCount x.1 x.2) m.types.length = none := by
  induction entries generalizing p with
  | nil => simp [bodyViolation?]
  | cons x rest ih =>
    rw [bodyViolation?, List.forall_mem_cons, ← @ih (p + 1)]
    split
    · next hfound => simp [hfound]
    · next hnone => simp [hnone]

theorem violation?_eq_none_iff :
    m.violation? = none ↔ functionViolation? m.types.length 0 m.functions = none ∧
      m.functions.length = m.bodies.length ∧
      exportViolation? m.functions.length 0 [] m.exports = none ∧
      m.bodyViolation? 0 (m.functions.zip m.bodies) = none := by
  simp [violation?]

theorem validate_eq_ok_iff : m.validate = .ok () ↔ m.violation? = none := by
  rw [validate]
  cases m.violation? with
  | none => exact iff_of_true rfl rfl
  | some v =>
    apply iff_of_false
    · intro h
      cases h
    · intro h
      cases h

theorem body_violation?_eq_none (h : m.validate = .ok ()) {fb : FuncBody} (hfb : fb ∈ m.bodies) :
    ∃ locals, fb.violation? locals m.types.length = none := by
  obtain ⟨-, hcount, -, hbodies⟩ := violation?_eq_none_iff.1 (validate_eq_ok_iff.1 h)
  obtain ⟨p, hp⟩ := List.mem_iff_getElem?.1 hfb
  have hlt : p < m.functions.length := by
    rw [hcount]
    exact (List.getElem?_eq_some_iff.1 hp).1
  have hzip : (m.functions.zip m.bodies)[p]? = some (m.functions[p], fb) :=
    List.getElem?_zip_eq_some.2 ⟨List.getElem?_eq_getElem hlt, hp⟩
  exact ⟨_, bodyViolation?_eq_none_iff.1 hbodies _ (List.mem_of_getElem? hzip)⟩

theorem Refers.lt (h : m.validate = .ok ()) {index : Int32} (hindex : m.Refers index) :
    index.toInt < m.types.length := by
  obtain ⟨body, holds, type, kind⟩ := hindex
  obtain ⟨locals, hnone⟩ := body_violation?_eq_none h body
  have hinstr := FuncBody.violation?_eq_none_iff.1 hnone _ _ holds
  rw [Instr.violation?_of_blockType type] at hinstr
  exact BlockType.violation?_eq_none_iff.1 hinstr kind

theorem Bounded.refers_nonneg (hm : m.Bounded) {index : Int32} (hindex : m.Refers index) :
    0 ≤ index.toInt := by
  obtain ⟨body, holds, type, kind⟩ := hindex
  exact Int32.le_iff_toInt_le.1 (hm.blockTypes _ body _ _ holds _ type kind)

/-- Validation bounds the signatures of structured instructions from above. They are all in range
exactly if none has a negative index, which holds of modules that were decoded. -/
theorem validate_signatures (h : m.validate = .ok ()) :
    (∀ index, m.Refers index → index.toInt < m.types.length) ∧
      ((∀ index, m.Refers index → 0 ≤ index.toInt ∧ index.toInt < m.types.length) ↔
        ∀ index, m.Refers index → 0 ≤ index.toInt) ∧
      ∀ options data, decode options data = .ok m →
        ∀ index, m.Refers index → 0 ≤ index.toInt ∧ index.toInt < m.types.length := by
  have hbelow (index : Int32) (hindex : m.Refers index) : index.toInt < m.types.length :=
    hindex.lt h
  refine ⟨hbelow, ⟨?_, ?_⟩, ?_⟩
  · intro hrange index hindex
    exact (hrange index hindex).1
  · intro hnatural index hindex
    exact ⟨hnatural index hindex, hbelow index hindex⟩
  · intro options data hdecode index hindex
    have hm := (decode_eq_ok_iff.1 hdecode).bounded
    exact ⟨hm.refers_nonneg hindex, hbelow index hindex⟩

/-- A block of the type before the first one passes. -/
theorem validate_signatures_negative :
    let m : Module := ⟨.magic, .version1, [.types [⟨[], []⟩], .functions [0],
      .code [⟨0, [], .ofInstrs [.block .block (.ofIndex (-1)) (.close .close)] .close⟩]]⟩
    m.validate = .ok () ∧ m.Refers (-1) ∧
      ¬ ∀ index, m.Refers index → 0 ≤ index.toInt ∧ index.toInt < m.types.length := by
  intro m
  have h : m.validate = .ok () := by decide +kernel
  have hrefers : m.Refers (BlockType.ofIndex (-1)).typeIndex :=
    .mk (List.mem_singleton.2 rfl) .head rfl rfl
  refine ⟨h, hrefers, fun hrange => ?_⟩
  have hnatural := (validate_signatures h).2.1.1 hrange (-1) hrefers
  exact absurd hnatural (by decide)

end Module

end WasmScope

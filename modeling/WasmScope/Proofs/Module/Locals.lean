import WasmScope.Proofs.Module.Validity

namespace WasmScope

def FuncBody.localTotal (fb : FuncBody) (signature : FuncType) : Nat :=
  signature.params.length + LocalEntry.total fb.locals

/-- The failure tells, in true numbers, of a body that accesses a local which it does not have. -/
inductive Module.LacksLocal (m : Module) : Failure → Prop
  | mk {p depth : Nat} {fb : FuncBody} {signature : FuncType} {access : LocalAccess}
      {index : UInt32} (entry : m.HasBody p fb signature)
      (holds : fb.body.Holds (.localVar access index) depth)
      (past : fb.localTotal signature ≤ index.toNat) :
      LacksLocal m (.context (Decode.Place.body p).label
        (.report (.outOfBounds .validate ["local"] index.toNat (fb.localTotal signature))))

theorem toInt_toInt64_of_le {n : UInt64} {index : UInt32} (h : n.toNat ≤ index.toNat) :
    n.toInt64.toInt = n.toNat := by
  have hindex := index.toNat_lt
  have hlt : 2 * n.toNat < 2 ^ 64 := by omega
  exact BitVec.toInt_eq_toNat_of_lt hlt

namespace BodyViolation

theorem report_localIndex {index : UInt32} {count : UInt64} (h : count.toNat ≤ index.toNat) :
    (localIndex index count).report =
      .outOfBounds .validate ["local"] index.toNat count.toNat := by
  rw [report, toInt_toInt64_of_le h]

theorem eq_localIndex_of_path {v : BodyViolation} (h : v.report.path = ["local"]) :
    ∃ index count, v = localIndex index count := by
  cases v with
  | localIndex index count => exact ⟨index, count, rfl⟩
  | labelIndex => simp [report, Report.outOfBounds] at h
  | blockType => simp [report, Report.outOfBounds] at h

end BodyViolation

theorem Violation.eq_localIndex_of_path {v : Violation} {r : Report}
    (h : v.failure.firstReport? = some r) (path : r.path = ["local"]) :
    ∃ p index count, v = body p (.localIndex index count) := by
  cases v with
  | functionType =>
    cases h
    simp [Report.outOfBounds] at path
  | bodyCount =>
    cases h
    simp [Report.mismatch] at path
  | duplicateExport =>
    cases h
    simp [Report.duplicate] at path
  | exportTarget =>
    cases h
    simp [Report.outOfBounds] at path
  | body p v =>
    cases h
    obtain ⟨index, count, rfl⟩ := BodyViolation.eq_localIndex_of_path path
    exact ⟨p, index, count, rfl⟩

namespace Instr

variable {depth types : Nat} {index : UInt32} {count : UInt64}

theorem violation?_localVar {access : LocalAccess} {v : BodyViolation}
    (h : (localVar access index).violation? depth count types = some v) :
    count.toNat ≤ index.toNat ∧ v = .localIndex index count := by
  obtain ⟨past, rfl⟩ := violation?_eq_some_iff.1 h
  exact ⟨past, by rw [UInt64.ofNat_toNat]⟩

/-- Only an access to a local is at fault with the index of a local, and then the number of locals
fits into the count. -/
theorem Fault.localIndex {i : Instr} {locals : Nat}
    (h : i.Fault depth locals types (.localIndex index count)) :
    ∃ access, i = localVar access index ∧ locals ≤ index.toNat ∧ count.toNat = locals := by
  cases i with
  | localVar access index' =>
    obtain ⟨past, heq⟩ := h
    cases heq
    have hindex := index.toNat_lt
    have hsize : locals < UInt64.size := by
      simp only [UInt64.size]
      omega
    exact ⟨access, rfl, past, UInt64.toNat_ofNat_of_lt' hsize⟩
  | branch => cases h.2
  | block => cases h.2
  | cond => cases h.2
  | const => exact h.elim
  | numeric => exact h.elim

end Instr

namespace Module

variable {options : DecodeOptions} {data : List UInt8} {m : Module}

theorem exists_signature (htypes : functionViolation? m.types.length 0 m.functions = none)
    (hcount : m.functions.length = m.bodies.length) {p : Nat} {fb : FuncBody}
    (hfb : m.bodies[p]? = some fb) :
    ∃ type signature, m.functions[p]? = some type ∧ m.types[type.toNat]? = some signature := by
  have hp : p < m.functions.length := by
    rw [hcount]
    exact (List.getElem?_eq_some_iff.1 hfb).1
  have hf := List.getElem?_eq_getElem hp
  have hlt := functionViolation?_eq_none_iff.1 htypes _ (List.mem_of_getElem? hf)
  exact ⟨_, _, hf, List.getElem?_eq_getElem hlt⟩

theorem Bounded.lacksLocal (hm : m.Bounded) {f : Failure} {r : Report}
    (hf : m.validate = .error f) (hr : f.firstReport? = some r) (path : r.path = ["local"]) :
    m.LacksLocal f := by
  have hfirst := violation?_first hm
  rw [validate] at hf
  cases hv : m.violation? with
  | none =>
    rw [hv] at hf
    cases hf
  | some v =>
    rw [hv] at hf hfirst
    cases hf
    obtain ⟨p, index, count, rfl⟩ := Violation.eq_localIndex_of_path hr path
    -- the violation is one that the walk over the body meets, and that counts in natural numbers
    obtain ⟨t, fault, -, -⟩ := hfirst
    cases fault with
    | body entry visit fault =>
      obtain ⟨access, rfl, past, hn⟩ := fault.localIndex
      rw [Violation.failure, BodyViolation.report_localIndex (hn.trans_le past), hn]
      exact .mk entry (Expr.mem_walkAll_iff.1 (List.mem_of_getElem? visit)) past

/-- Where the functions of a decoded module have types and are as many as its bodies, no count of
locals wraps: it is the number of parameters and of all declared locals. An access out of range is
reported with its index and that number, also where it is what validation as a whole fails with. -/
theorem localCount_exact (hdecode : decode options data = .ok m)
    (htypes : functionViolation? m.types.length 0 m.functions = none)
    (hcount : m.functions.length = m.bodies.length) :
    (∀ (p : Nat) (fb : FuncBody), m.bodies[p]? = some fb → ∃ type signature,
      m.functions[p]? = some type ∧ m.types[type.toNat]? = some signature ∧
      (m.localCount type fb).toNat = fb.localTotal signature ∧
      ∀ access index depth v,
        (Instr.localVar access index).violation? depth (m.localCount type fb) m.types.length =
          some v →
        fb.localTotal signature ≤ index.toNat ∧ v = .localIndex index (m.localCount type fb) ∧
        (m.localCount type fb).toInt64.toInt = fb.localTotal signature ∧
        v.report = .outOfBounds .validate ["local"] index.toNat (fb.localTotal signature)) ∧
    ∀ f r, m.validate = .error f → f.firstReport? = some r → r.path = ["local"] →
      m.LacksLocal f := by
  have hm := (decode_eq_ok_iff.1 hdecode).bounded
  refine ⟨?_, fun f r => hm.lacksLocal⟩
  intro p fb hfb
  obtain ⟨type, signature, hf, ht⟩ := exists_signature htypes hcount hfb
  have hn : (m.localCount type fb).toNat = fb.localTotal signature :=
    toNat_localCount hm (List.mem_of_getElem? hfb) ht
  refine ⟨type, signature, hf, ht, hn, ?_⟩
  intro access index depth v hv
  obtain ⟨past, rfl⟩ := Instr.violation?_localVar hv
  refine ⟨hn.symm.trans_le past, rfl, ?_, ?_⟩
  · rw [toInt_toInt64_of_le past, hn]
  · rw [BodyViolation.report_localIndex past, hn]

/-- The first body has more locals than an index can reach. The second one has as many as an index
can be past, and a nested access goes past them. -/
theorem localCount_exact_greatest :
    let data : List UInt8 := [0x00, 0x61, 0x73, 0x6D, 1, 0, 0, 0,
      0x01, 0x05, 0x01, 0x60, 0x01, 0x7F, 0x00, 0x03, 0x03, 0x02, 0x00, 0x00, 0x0A, 0x28, 0x02,
      0x14, 0x02, 0xFF, 0xFF, 0xFF, 0xFF, 0x0F, 0x7F, 0xFF, 0xFF, 0xFF, 0xFF, 0x0F, 0x7E,
      0x20, 0xFF, 0xFF, 0xFF, 0xFF, 0x0F, 0x0B,
      0x11, 0x01, 0xFE, 0xFF, 0xFF, 0xFF, 0x0F, 0x7F,
      0x02, 0x40, 0x21, 0xFF, 0xFF, 0xFF, 0xFF, 0x0F, 0x0B, 0x0B]
    let wide : FuncBody := ⟨20, [⟨0xFFFFFFFF, .i32⟩, ⟨0xFFFFFFFF, .i64⟩],
      .ofInstrs [.localVar .get 0xFFFFFFFF] .close⟩
    let past : FuncBody := ⟨17, [⟨0xFFFFFFFE, .i32⟩],
      .ofInstrs [.block .block .empty (.ofInstrs [.localVar .set 0xFFFFFFFF] .close)] .close⟩
    let m : Module := ⟨.magic, .version1,
      [.types [⟨[.i32], []⟩], .functions [0, 0], .code [wide, past]]⟩
    let f : Failure := .context "body 1"
      (.report (.outOfBounds .validate ["local"] 0xFFFFFFFF 0xFFFFFFFF))
    decode {} data = .ok m ∧ functionViolation? m.types.length 0 m.functions = none ∧
      m.functions.length = m.bodies.length ∧ (m.localCount 0 wide).toNat = 0x1FFFFFFFF ∧
      (Instr.localVar .set 0xFFFFFFFF).violation? 1 (m.localCount 0 past) 1 =
        some (.localIndex 0xFFFFFFFF (m.localCount 0 past)) ∧
      (m.localCount 0 past).toInt64.toInt = 0xFFFFFFFF ∧
      m.validate = .error f ∧ m.LacksLocal f := by
  intro data wide past m f
  have hdecode : decode {} data = .ok m := by decide +kernel
  have htypes : functionViolation? m.types.length 0 m.functions = none := by decide
  have hfails : m.validate = .error f := by decide +kernel
  have hv : (Instr.localVar .set 0xFFFFFFFF).violation? 1 (m.localCount 0 past) 1 =
      some (.localIndex 0xFFFFFFFF (m.localCount 0 past)) := by decide
  have hwide : wide.localTotal ⟨[.i32], []⟩ = 0x1FFFFFFFF := by decide
  have hpast : past.localTotal ⟨[.i32], []⟩ = 0xFFFFFFFF := by decide
  obtain ⟨hbodies, hfailures⟩ := localCount_exact hdecode htypes rfl
  obtain ⟨_, _, hf, ht, hn, -⟩ := hbodies 0 wide rfl
  cases hf
  cases ht
  obtain ⟨_, _, hf, ht, -, hreports⟩ := hbodies 1 past rfl
  cases hf
  cases ht
  obtain ⟨-, -, hint, -⟩ := hreports .set 0xFFFFFFFF 1 _ hv
  rw [hwide] at hn
  rw [hpast] at hint
  exact ⟨hdecode, htypes, rfl, hn, hv, hint, hfails, hfailures f _ hfails rfl rfl⟩

end Module

end WasmScope

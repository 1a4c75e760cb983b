import Mathlib.Data.List.Basic
import WasmScope.Proofs.Grammar.Module
import WasmScope.Proofs.Module.Walk

namespace WasmScope

/-- An expression closed by an end, and the visits of a walk over it. -/
inductive Expr.Laid (start : Nat) : List UInt8 → Expr → List Visit → Prop
  | mk {bs : List UInt8} {is : List Instr} {visits : List Visit}
      (code : Instr.Laid 0 start bs is visits) :
      Laid start (bs ++ [Opcode.close.code]) (.ofInstrs is .close) visits

/-- A body, the visits of a walk over it, the position behind the end that closes it, and how many
bytes of its declared size are left there. -/
structure BodyLayout where
  body : FuncBody
  visits : List Visit
  stop : Nat
  unread : Nat
deriving DecidableEq, Repr

inductive FuncBody.Laid (start : Nat) : Format BodyLayout
  | mk {fb : FuncBody} {front ls es trailing : List UInt8} {visits : List Visit}
      (size : Leb128.Unsigned front fb.size)
      (extent : fb.size.toNat = (ls ++ (es ++ trailing)).length)
      (locals : Format.Counted LocalEntry.Written ls fb.locals)
      (code : Expr.Laid (start + front.length + ls.length) es fb.body visits) :
      Laid start (front ++ (ls ++ (es ++ trailing)))
        ⟨fb, visits, start + front.length + ls.length + es.length, trailing.length⟩

/-- A section, the position of its id, the position behind its last byte, and its bodies. -/
structure SectionLayout where
  content : Section
  start : Nat
  stop : Nat
  bodies : List BodyLayout
deriving DecidableEq, Repr

inductive Section.Laid (start : Nat) : Format SectionLayout
  | code {front cs bs trailing : List UInt8} {n k : UInt32} {bodies : List BodyLayout}
      (size : Leb128.Unsigned front n) (extent : n.toNat = (cs ++ bs ++ trailing).length)
      (count : Leb128.Unsigned cs k) (length : k.toNat = bodies.length)
      (items : Format.Sequence FuncBody.Laid (start + 1 + front.length + cs.length) bs bodies) :
      Laid start (SectionId.code.byte :: (front ++ (cs ++ bs ++ trailing)))
        ⟨.code (bodies.map (·.body)), start,
          start + (SectionId.code.byte :: (front ++ (cs ++ bs ++ trailing))).length, bodies⟩
  | other {s : Section} {bs : List UInt8} (written : Written {} bs s) (id : s.id ≠ .code) :
      Laid start bs ⟨s, start, start + bs.length, []⟩

inductive Module.Laid : List UInt8 → Module → List SectionLayout → Prop
  | mk {bs : List UInt8} {layout : List SectionLayout} (version : FourBytes)
      (items : Format.Sequence Section.Laid 8 bs layout) :
      Laid (FourBytes.magic.toList ++ (version.toList ++ bs))
        ⟨.magic, version, layout.map (·.content)⟩ layout

/-- What is wrong with a body by the options: the first instruction that opens deeper than the limit
allows, or else the bytes that strict reading does not pass over. -/
def BodyLayout.fault (options : DecodeOptions) (b : BodyLayout) : Option Defect :=
  match b.visits.find? (·.exceeds options.maxNesting) with
  | some v => some (.nestingTooDeep v.position options.maxNesting)
  | none =>
    if options.strict = true ∧ 0 < b.unread then some (.trailingBytes b.stop b.unread) else none

theorem BodyLayout.fault_eq_none_iff {options : DecodeOptions} {b : BodyLayout} :
    b.fault options = none ↔
      Visit.Clear options.maxNesting b.visits ∧ (options.strict = true → b.unread = 0) := by
  rw [← Visit.find?_eq_none_iff, fault]
  cases b.visits.find? (·.exceeds options.maxNesting) with
  | some v => simp
  | none => simp [Nat.pos_iff_ne_zero]

namespace Instr

theorem Laid.walk {depth start : Nat} {bs : List UInt8} {is : List Instr} {visits : List Visit}
    (h : Laid depth start bs is visits) (t : Opcode) :
    visits.map (fun v => (v.depth, v.instr)) =
      (Expr.ofInstrs is t).visits (fun _ => true) depth := by
  induction h generalizing t with
  | nil => rfl
  | plain head tail ih =>
    rw [Expr.ofInstrs_cons, Expr.visits, ← ih t]
    cases head <;> rfl
  | block shape type body tail ihbody ih =>
    rw [Expr.ofInstrs_cons, Expr.visits, ← ih t, Instr.visits_all]
    simp [nested, ihbody .close]
  | cond type thn tail ihthn ih =>
    rw [Expr.ofInstrs_cons, Expr.visits, ← ih t, Instr.visits_all]
    simp [nested, ihthn .close, Expr.unset, Expr.visits]
  | condElse type thn els tail ihthn ihels ih =>
    rw [Expr.ofInstrs_cons, Expr.visits, ← ih t, Instr.visits_all]
    simp [nested, ihthn .otherwise, ihels .close]

end Instr

namespace Expr

theorem Laid.walk {start : Nat} {bs : List UInt8} {e : Expr} {visits : List Visit}
    (h : Laid start bs e visits) : visits.map (fun v => (v.depth, v.instr)) = e.walkAll := by
  obtain ⟨code⟩ := h
  exact code.walk .close

theorem written_iff_laid {limit start : Nat} {bs : List UInt8} {e : Expr} :
    Written limit .close bs e ↔ ∃ visits, Laid start bs e visits ∧ Visit.Clear limit visits := by
  constructor
  · intro h
    obtain ⟨code⟩ := h
    have code : Instr.Code (limit - 0) _ _ := code
    obtain ⟨visits, hvisits, hclear⟩ := Instr.code_iff_laid.1 code
    exact ⟨visits, .mk hvisits, hclear⟩
  · intro h
    obtain ⟨visits, ⟨code⟩, hclear⟩ := h
    exact .mk (Instr.code_iff_laid.2 ⟨visits, code, hclear⟩)

end Expr

variable {options : DecodeOptions} {start : Nat} {bs : List UInt8}

theorem FuncBody.written_iff_laid {fb : FuncBody} :
    Written options bs fb ↔ ∃ x, Laid start bs x ∧ x.body = fb ∧ x.fault options = none := by
  constructor
  · intro h
    obtain ⟨size, extent, locals, code, tight⟩ := h
    obtain ⟨visits, hvisits, hclear⟩ := Expr.written_iff_laid.1 code
    refine ⟨_, .mk size extent locals hvisits, rfl, BodyLayout.fault_eq_none_iff.2 ⟨hclear, ?_⟩⟩
    exact fun hstrict => List.length_eq_zero_iff.2 (tight hstrict)
  · intro h
    obtain ⟨_, ⟨size, extent, locals, code⟩, rfl, hfault⟩ := h
    obtain ⟨hclear, htight⟩ := BodyLayout.fault_eq_none_iff.1 hfault
    refine ⟨size, extent, locals, Expr.written_iff_laid.2 ⟨_, code, hclear⟩, ?_⟩
    exact fun hstrict => List.length_eq_zero_iff.1 (htight hstrict)

theorem FuncBody.many_iff_laid {fbs : List FuncBody} :
    Format.Many (FuncBody.Written options) bs fbs ↔
      ∃ xs, Format.Sequence FuncBody.Laid start bs xs ∧ xs.map (·.body) = fbs ∧
        ∀ x ∈ xs, x.fault options = none := by
  rw [Format.many_iff_sequence start]
  apply Format.sequence_iff
  intro start bs fb
  exact FuncBody.written_iff_laid

namespace Section

theorem Written.of_ne_code {s : Section} (h : Written options bs s) (hid : s.id ≠ .code)
    (options' : DecodeOptions) : Written options' bs s := by
  obtain ⟨size, extent, content⟩ := h
  refine ⟨size, extent, ?_⟩
  cases content with
  | types entries => exact .types entries
  | functions entries => exact .functions entries
  | exports entries => exact .exports entries
  | code entries => exact absurd rfl hid

theorem written_iff_laid {s : Section} :
    Written options bs s ↔ ∃ x, Laid start bs x ∧ x.content = s ∧
      ∀ b ∈ x.bodies, b.fault options = none := by
  constructor
  · intro h
    by_cases hid : s.id = .code
    · obtain ⟨size, extent, content⟩ := h
      cases content with
      | code entries =>
        obtain ⟨count, length, items⟩ := entries
        obtain ⟨xs, hxs, rfl, hfaults⟩ := FuncBody.many_iff_laid.1 items
        rw [List.length_map] at length
        exact ⟨_, .code size extent count length hxs, rfl, hfaults⟩
      | types => cases hid
      | functions => cases hid
      | exports => cases hid
    · exact ⟨_, .other (h.of_ne_code hid {}) hid, rfl, nofun⟩
  · intro h
    obtain ⟨x, hx, rfl, hfaults⟩ := h
    cases hx with
    | code size extent count length items =>
      rw [← List.length_map (f := BodyLayout.body)] at length
      exact ⟨size, extent,
        .code ⟨count, length, FuncBody.many_iff_laid.2 ⟨_, items, rfl, hfaults⟩⟩⟩
    | other written id => exact written.of_ne_code id options

theorem Laid.extent {x : SectionLayout} (h : Laid start bs x) :
    x.start = start ∧ x.stop = start + bs.length ∧ x.start < x.stop := by
  cases h with
  | code => exact ⟨rfl, rfl, by simp⟩
  | other written =>
    obtain ⟨_⟩ := written
    exact ⟨rfl, rfl, by simp⟩

theorem tiles {layout : List SectionLayout} (h : Format.Sequence Laid start bs layout) :
    start :: layout.map (·.stop) = layout.map (·.start) ++ [start + bs.length] :=
  h.tiles fun hx => ⟨hx.extent.1, hx.extent.2.1⟩

theorem bounds {layout : List SectionLayout} (h : Format.Sequence Laid start bs layout)
    {x : SectionLayout} (hx : x ∈ layout) :
    start ≤ x.start ∧ x.start < x.stop ∧ x.stop ≤ start + bs.length := by
  induction h with
  | nil => cases hx
  | cons head tail ih =>
    rw [List.length_append]
    rcases List.mem_cons.1 hx with rfl | hx
    · obtain ⟨hstart, hstop, hlt⟩ := head.extent
      omega
    · have := ih hx
      omega

end Section

theorem FuncBody.Laid.expr {b : BodyLayout} (h : Laid start bs b) :
    ∃ k es, Expr.Laid k es b.body.body b.visits := by
  obtain ⟨size, extent, locals, code⟩ := h
  exact ⟨_, _, code⟩

theorem Section.Laid.bodyEntries {x : SectionLayout} (h : Laid start bs x) :
    x.bodies.map (·.body) = x.content.bodyEntries ∧
      ∀ b ∈ x.bodies, ∃ k es, Expr.Laid k es b.body.body b.visits := by
  cases h with
  | code size extent count length items => exact ⟨rfl, items.forall FuncBody.Laid.expr⟩
  | @other s bs written id =>
    refine ⟨?_, nofun⟩
    cases s with
    | code entries => exact absurd rfl id
    | types entries => rfl
    | functions entries => rfl
    | exports entries => rfl

theorem Module.Laid.bodies {data : List UInt8} {m : Module} {layout : List SectionLayout}
    (h : Laid data m layout) :
    (layout.flatMap (·.bodies)).map (·.body) = m.bodies ∧
      ∀ b ∈ layout.flatMap (·.bodies), ∃ k es, Expr.Laid k es b.body.body b.visits := by
  obtain ⟨version, items⟩ := h
  have hsections := items.forall Section.Laid.bodyEntries
  constructor
  · rw [Module.bodies, List.map_flatMap, List.flatMap_map]
    exact List.flatMap_congr fun x hx => (hsections x hx).1
  · intro b hb
    obtain ⟨x, hx, hb⟩ := List.mem_flatMap.1 hb
    exact (hsections x hx).2 b hb

theorem Section.many_iff_laid {ss : List Section} :
    Format.Many (Section.Written options) bs ss ↔
      ∃ xs, Format.Sequence Section.Laid start bs xs ∧ xs.map (·.content) = ss ∧
        ∀ x ∈ xs, ∀ b ∈ x.bodies, b.fault options = none := by
  rw [Format.many_iff_sequence start]
  apply Format.sequence_iff
  intro start bs s
  exact Section.written_iff_laid

/-- Decoding accepts what has a layout without faults, as the module that is laid out. -/
theorem Module.decode_iff_laid {data : List UInt8} {m : Module} :
    decode options data = .ok m ↔ ∃ layout, Laid data m layout ∧
      ∀ x ∈ layout, ∀ b ∈ x.bodies, b.fault options = none := by
  rw [decode_eq_ok_iff]
  constructor
  · intro h
    obtain ⟨version, sections⟩ := h
    obtain ⟨xs, hxs, rfl, hfaults⟩ := Section.many_iff_laid.1 sections
    exact ⟨xs, .mk version hxs, hfaults⟩
  · intro h
    obtain ⟨layout, ⟨version, items⟩, hfaults⟩ := h
    exact .mk version (Section.many_iff_laid.2 ⟨layout, items, rfl, hfaults⟩)

end WasmScope

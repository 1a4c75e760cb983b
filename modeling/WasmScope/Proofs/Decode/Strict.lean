import WasmScope.Proofs.Decode.Layout
import WasmScope.Proofs.Decode.Preempt

namespace WasmScope

/-- Where a body ends: the position behind the end that closes it, and how many bytes of its
declared size are left there. -/
structure BodyEnd where
  position : Nat
  unread : Nat
deriving DecidableEq, Repr

inductive FuncBody.Ends (limit start : Nat) : Format (FuncBody × BodyEnd)
  | mk {fb : FuncBody} {front ls es trailing : List UInt8} (size : Leb128.Unsigned front fb.size)
      (extent : fb.size.toNat = (ls ++ (es ++ trailing)).length)
      (locals : Format.Counted LocalEntry.Written ls fb.locals)
      (code : Expr.Written limit .close es fb.body) :
      Ends limit start (front ++ (ls ++ (es ++ trailing)))
        (fb, ⟨start + (front ++ (ls ++ es)).length, trailing.length⟩)

inductive Section.Ends (limit start : Nat) : Format (Section × List BodyEnd)
  | code {front cs bs trailing : List UInt8} {n k : UInt32} {bodies : List (FuncBody × BodyEnd)}
      (size : Leb128.Unsigned front n) (extent : n.toNat = (cs ++ bs ++ trailing).length)
      (count : Leb128.Unsigned cs k) (length : k.toNat = bodies.length)
      (items : Format.Sequence (FuncBody.Ends limit) (start + 1 + front.length + cs.length) bs
        bodies) :
      Ends limit start (SectionId.code.byte :: (front ++ (cs ++ bs ++ trailing)))
        (.code (bodies.map Prod.fst), bodies.map Prod.snd)
  | other {s : Section} {bs : List UInt8} (written : Written ⟨false, limit⟩ bs s)
      (id : s.id ≠ .code) : Ends limit start bs (s, [])

/-- The bodies of a module in the order of the input, each with its end. -/
inductive Module.Ends (limit : Nat) : Format (Module × List BodyEnd)
  | mk {bs : List UInt8} {sections : List (Section × List BodyEnd)} (version : FourBytes)
      (items : Format.Sequence (Section.Ends limit) 8 bs sections) :
      Ends limit (FourBytes.magic.toList ++ (version.toList ++ bs))
        (⟨.magic, version, sections.map Prod.fst⟩, sections.flatMap Prod.snd)

variable {limit start : Nat} {bs : List UInt8}

namespace BodyLayout

def bodyEnd (b : BodyLayout) : BodyEnd := ⟨b.stop, b.unread⟩

theorem fault_of_clear {strict : Bool} {b : BodyLayout} (h : Visit.Clear limit b.visits) :
    b.fault ⟨strict, limit⟩ = if strict = true ∧ 0 < b.unread then
      some (.trailingBytes b.stop b.unread) else none := by
  rw [fault, Visit.find?_eq_none_iff.2 h]

theorem first_fault_of_clear {bodies : List BodyLayout}
    (hclear : ∀ b ∈ bodies, Visit.Clear limit b.visits) :
    bodies.findSome? (·.fault ⟨true, limit⟩) =
      ((bodies.map bodyEnd).find? fun e => 0 < e.unread).map
        fun e => .trailingBytes e.position e.unread := by
  induction bodies with
  | nil => rfl
  | cons b bodies ih =>
    obtain ⟨hb, hbodies⟩ := List.forall_mem_cons.1 hclear
    rw [List.findSome?_cons, List.map_cons, fault_of_clear hb]
    by_cases hloose : 0 < b.bodyEnd.unread
    · rw [if_pos ⟨rfl, hloose⟩, List.find?_cons_of_pos (by simpa using hloose)]
      rfl
    · rw [if_neg fun h => hloose h.2, List.find?_cons_of_neg (by simpa using hloose)]
      exact ih hbodies

end BodyLayout

theorem FuncBody.ends_iff_laid {y : FuncBody × BodyEnd} :
    Ends limit start bs y ↔
      ∃ x, Laid start bs x ∧ (x.body, x.bodyEnd) = y ∧ Visit.Clear limit x.visits := by
  have hstop (front ls es : List UInt8) : start + (front ++ (ls ++ es)).length =
      start + front.length + ls.length + es.length := by
    simp only [List.length_append]
    omega
  constructor
  · intro h
    obtain ⟨size, extent, locals, code⟩ := h
    obtain ⟨visits, hvisits, hclear⟩ := Expr.written_iff_laid.1 code
    refine ⟨_, .mk size extent locals hvisits, ?_, hclear⟩
    rw [hstop, BodyLayout.bodyEnd]
  · intro h
    obtain ⟨_, ⟨size, extent, locals, code⟩, rfl, hclear⟩ := h
    have code := Expr.written_iff_laid.2 ⟨_, code, hclear⟩
    rw [BodyLayout.bodyEnd, ← hstop]
    exact .mk size extent locals code

theorem Section.ends_iff_laid {y : Section × List BodyEnd} :
    Ends limit start bs y ↔ ∃ x, Laid start bs x ∧
      (x.content, x.bodies.map (·.bodyEnd)) = y ∧ ∀ b ∈ x.bodies, Visit.Clear limit b.visits := by
  have hbodies {start : Nat} {bs : List UInt8} {ys : List (FuncBody × BodyEnd)} :
      Format.Sequence (FuncBody.Ends limit) start bs ys ↔
        ∃ xs, Format.Sequence FuncBody.Laid start bs xs ∧
          xs.map (fun x => (x.body, x.bodyEnd)) = ys ∧ ∀ x ∈ xs, Visit.Clear limit x.visits := by
    apply Format.sequence_iff
    intro start bs y
    exact FuncBody.ends_iff_laid
  constructor
  · intro h
    cases h with
    | code size extent count length items =>
      obtain ⟨xs, hxs, rfl, hclear⟩ := hbodies.1 items
      rw [List.length_map] at length
      exact ⟨_, .code size extent count length hxs, by simp, hclear⟩
    | other written id => exact ⟨_, .other (written.of_ne_code id {}) id, rfl, nofun⟩
  · intro h
    obtain ⟨x, hx, rfl, hclear⟩ := h
    cases hx with
    | @code front cs bs trailing n k bodies size extent count length items =>
      have items := hbodies.2 ⟨bodies, items, rfl, hclear⟩
      rw [← List.length_map (f := fun x : BodyLayout => (x.body, x.bodyEnd))] at length
      have hends := Ends.code size extent count length items
      rw [List.map_map, List.map_map] at hends
      exact hends
    | other written id => exact .other (written.of_ne_code id ⟨false, limit⟩) id

namespace Module

variable {data : List UInt8} {m : Module} {ends : List BodyEnd}

theorem ends_iff_laid :
    Ends limit data (m, ends) ↔ ∃ layout, Laid data m layout ∧
      (layout.flatMap (·.bodies)).map (·.bodyEnd) = ends ∧
      ∀ b ∈ layout.flatMap (·.bodies), Visit.Clear limit b.visits := by
  have hsections {bs : List UInt8} {ys : List (Section × List BodyEnd)} :
      Format.Sequence (Section.Ends limit) 8 bs ys ↔
        ∃ xs, Format.Sequence Section.Laid 8 bs xs ∧
          xs.map (fun x => (x.content, x.bodies.map (·.bodyEnd))) = ys ∧
          ∀ x ∈ xs, ∀ b ∈ x.bodies, Visit.Clear limit b.visits := by
    apply Format.sequence_iff
    intro start bs y
    exact Section.ends_iff_laid
  constructor
  · intro h
    generalize hy : (m, ends) = y at h
    obtain ⟨version, items⟩ := h
    obtain ⟨xs, hxs, rfl, hclear⟩ := hsections.1 items
    obtain ⟨rfl, rfl⟩ := Prod.mk.inj hy
    rw [List.map_map, List.flatMap_map]
    exact ⟨xs, .mk version hxs, List.map_flatMap, List.forall_mem_flatMap.2 hclear⟩
  · intro h
    obtain ⟨layout, ⟨version, items⟩, rfl, hclear⟩ := h
    have items := hsections.2 ⟨layout, items, rfl, List.forall_mem_flatMap.1 hclear⟩
    have hends := Ends.mk version items
    rw [List.map_map, List.flatMap_map] at hends
    rw [List.map_flatMap]
    exact hends

theorem decode_iff_ends {strict : Bool} :
    decode ⟨strict, limit⟩ data = .ok m ↔
      ∃ ends, Ends limit data (m, ends) ∧ (strict = true → ∀ e ∈ ends, e.unread = 0) := by
  rw [decode_iff_laid]
  constructor
  · intro h
    obtain ⟨layout, hlayout, hfaults⟩ := h
    have hfaults := List.forall_mem_flatMap.2 hfaults
    refine ⟨_, ends_iff_laid.2 ⟨layout, hlayout, rfl, fun b hb => ?_⟩, fun hstrict => ?_⟩
    · exact (BodyLayout.fault_eq_none_iff.1 (hfaults b hb)).1
    · intro e he
      obtain ⟨b, hb, rfl⟩ := List.mem_map.1 he
      exact (BodyLayout.fault_eq_none_iff.1 (hfaults b hb)).2 hstrict
  · intro h
    obtain ⟨ends, hends, htight⟩ := h
    obtain ⟨layout, hlayout, rfl, hclear⟩ := ends_iff_laid.1 hends
    refine ⟨layout, hlayout, List.forall_mem_flatMap.1 fun b hb => ?_⟩
    apply BodyLayout.fault_eq_none_iff.2
    exact ⟨hclear b hb, fun hstrict => htight hstrict _ (List.mem_map_of_mem hb)⟩

theorem decode_loose {e : BodyEnd} (h : Ends limit data (m, ends))
    (he : ends.find? (fun e => 0 < e.unread) = some e) :
    ∃ places, decode ⟨true, limit⟩ data =
      .error ⟨places, .trailingBytes e.position e.unread⟩ := by
  obtain ⟨layout, hlayout, rfl, hclear⟩ := ends_iff_laid.1 h
  apply decode_fault hlayout
  rw [BodyLayout.first_fault_of_clear hclear, he]
  rfl

end Module

theorem FuncBody.Laid.stop_add {x : BodyLayout} (h : Laid start bs x) :
    x.stop + x.unread = start + bs.length := by
  obtain ⟨_⟩ := h
  simp only [List.length_append]
  omega

namespace DecodeFailure

def IsTrailing (f : DecodeFailure) : Prop := f.defect.report.kind = .trailingBytes

end DecodeFailure

namespace Decode

variable {c : Cursor} {i : Nat}

theorem bodyContent_lenient_error {size : UInt32} {d : Defect}
    (h : bodyContent ⟨false, limit⟩ size c = .error d) :
    bodyContent ⟨true, limit⟩ size c = .error d := by
  rcases Reader.bind_eq_error.1 h with h | ⟨locals, c₁, h₁, h⟩
  · exact Reader.bind_eq_error.2 (.inl h)
  rcases Reader.bind_eq_error.1 h with h | ⟨e, c₂, h₂, h⟩
  · exact Reader.bind_eq_error.2 (.inr ⟨locals, c₁, h₁, Reader.bind_eq_error.2 (.inl h)⟩)
  -- bytes that are left over are no error here
  split at h
  · cases h
  · cases h

theorem placedBody_lenient_error {f : DecodeFailure}
    (h : placedBody ⟨false, limit⟩ i c = .error f) : placedBody ⟨true, limit⟩ i c = .error f := by
  rcases Reader.bind_eq_error.1 h with h | ⟨read, mid, -, h⟩
  · obtain ⟨d, hd, rfl⟩ := except_mapError_eq_error.1 h
    refine Reader.bind_eq_error.2 (.inl (except_mapError_eq_error.2 ⟨d, ?_, rfl⟩))
    rcases Reader.bind_eq_error.1 hd with hd | ⟨size, mid, hsize, hd⟩
    · exact Reader.bind_eq_error.2 (.inl hd)
    refine Reader.bind_eq_error.2 (.inr ⟨size, mid, hsize, ?_⟩)
    rcases Reader.bind_eq_error.1 hd with hd | ⟨region, rest, hregion, hd⟩
    · exact Reader.bind_eq_error.2 (.inl hd)
    refine Reader.bind_eq_error.2 (.inr ⟨region, rest, hregion, ?_⟩)
    cases hread : bodyContent ⟨false, limit⟩ size region with
    | ok p =>
      rw [hread] at hd
      cases hd
    | error d' =>
      rw [hread] at hd
      cases hd
      rw [bodyContent_lenient_error hread]
      rfl
  · cases h

theorem preempts_placedBody (limit i : Nat) :
    Reader.Preempts DecodeFailure.offset DecodeFailure.IsTrailing (placedBody ⟨false, limit⟩ i)
      (placedBody ⟨true, limit⟩ i) := by
  intro c
  cases hr : placedBody ⟨false, limit⟩ i c with
  | error f => exact .inl (placedBody_lenient_error hr)
  | ok p =>
    obtain ⟨fb, rest⟩ := p
    obtain ⟨bs, hw, hs⟩ := (reads_placedBody _ i _ _ _).1 hr
    have hlaid : ∃ x, FuncBody.Laid c.position bs x ∧ x.body = fb ∧ _ :=
      FuncBody.written_iff_laid.1 hw
    obtain ⟨x, hx, rfl, hfault⟩ := hlaid
    have hclear := (BodyLayout.fault_eq_none_iff.1 hfault).1
    by_cases htight : x.unread = 0
    · have hstrict : x.fault ⟨true, limit⟩ = none :=
        BodyLayout.fault_eq_none_iff.2 ⟨hclear, fun _ => htight⟩
      have hw := FuncBody.written_iff_laid.2 ⟨x, hx, rfl, hstrict⟩
      exact .inl ((reads_placedBody _ i _ _ _).2 ⟨bs, hw, hs⟩)
    · have hstrict : x.fault ⟨true, limit⟩ = some (.trailingBytes x.stop x.unread) :=
        (BodyLayout.fault_of_clear hclear).trans (if_pos ⟨rfl, Nat.pos_of_ne_zero htight⟩)
      refine .inr ⟨_, placedBody_fault hx hs hstrict, rfl, ?_, nofun⟩
      intro y rest' hy
      cases hy
      have hend := hx.stop_add
      have hrest := hs.position
      change (x.stop : Int) < rest.position
      omega

end Decode

namespace Module

variable {data : List UInt8}

theorem decode_lenient_error {f : DecodeFailure} (h : decode ⟨false, limit⟩ data = .error f) :
    decode ⟨true, limit⟩ data = .error f ∨
      ∃ f', decode ⟨true, limit⟩ data = .error f' ∧ f'.IsTrailing ∧ f'.offset < f.offset :=
  have hbodies : Decode.BodiesPreempt (fun d => d.report.kind = .trailingBytes) ⟨false, limit⟩
      ⟨true, limit⟩ := Decode.preempts_placedBody limit
  decode_preempted hbodies h

/-- Strict decoding accepts what lenient decoding accepts where no body ends before its declared
size. Otherwise it fails at the first body that does, and where lenient decoding fails it fails in
the same way or because of such a body further in front. -/
theorem decode_strict (limit : Nat) (data : List UInt8) :
    (∀ m, decode ⟨false, limit⟩ data = .ok m ↔ ∃ ends, Ends limit data (m, ends)) ∧
      (∀ m, decode ⟨true, limit⟩ data = .ok m ↔ decode ⟨false, limit⟩ data = .ok m ∧
        ∀ ends, Ends limit data (m, ends) → ∀ e ∈ ends, e.unread = 0) ∧
      (∀ m ends e, Ends limit data (m, ends) → ends.find? (fun e => 0 < e.unread) = some e →
        ∃ places, decode ⟨true, limit⟩ data =
          .error ⟨places, .trailingBytes e.position e.unread⟩) ∧
      ∀ f, decode ⟨false, limit⟩ data = .error f → decode ⟨true, limit⟩ data = .error f ∨
        ∃ f', decode ⟨true, limit⟩ data = .error f' ∧ f'.IsTrailing ∧ f'.offset < f.offset := by
  have hlenient (m : Module) :
      decode ⟨false, limit⟩ data = .ok m ↔ ∃ ends, Ends limit data (m, ends) := by
    simp [decode_iff_ends]
  refine ⟨hlenient, fun m => ⟨fun h => ?_, fun h => ?_⟩, fun m ends e => decode_loose, fun f =>
    decode_lenient_error⟩
  · obtain ⟨ends, hends, -⟩ := decode_iff_ends.1 h
    refine ⟨(hlenient m).2 ⟨ends, hends⟩, fun ends hends e he => ?_⟩
    by_contra hloose
    have hsome : (ends.find? fun e => 0 < e.unread).isSome = true :=
      List.find?_isSome.2 ⟨e, he, by simpa using Nat.pos_of_ne_zero hloose⟩
    obtain ⟨first, hfirst⟩ := Option.isSome_iff_exists.1 hsome
    obtain ⟨places, hplaces⟩ := decode_loose hends hfirst
    cases h.symm.trans hplaces
  · obtain ⟨hm, htight⟩ := h
    obtain ⟨ends, hends⟩ := (hlenient m).1 hm
    exact decode_iff_ends.2 ⟨ends, hends, fun _ => htight ends hends⟩

/-- A body with a byte too many in front of one with an opcode that is none. -/
theorem decode_strict_two_defects :
    let data : List UInt8 := [0x00, 0x61, 0x73, 0x6D, 1, 0, 0, 0,
      0x0A, 0x09, 0x02, 0x03, 0x00, 0x0B, 0xAA, 0x03, 0x00, 0xFF, 0x0B]
    let f : DecodeFailure := ⟨[.content .code, .body 1], .invalidOpcode 17 0xFF⟩
    let f' : DecodeFailure := ⟨[.content .code, .body 0], .trailingBytes 14 1⟩
    decode ⟨false, 1⟩ data = .error f ∧ decode ⟨true, 1⟩ data = .error f' ∧
      f'.IsTrailing ∧ f'.offset < f.offset := by
  intro data f f'
  have h : decode ⟨false, 1⟩ data = .error f := by decide +kernel
  have h' : decode ⟨true, 1⟩ data = .error f' := by decide +kernel
  rcases (decode_strict 1 data).2.2.2 f h with hsame | ⟨g, hg, htrailing, hlt⟩
  · exact absurd (Except.error.inj (h'.symm.trans hsame)) (by decide)
  · have hgf : g = f' := Except.error.inj (hg.symm.trans h')
    rw [hgf] at htrailing hlt
    exact ⟨h, h', htrailing, hlt⟩

end Module

end WasmScope

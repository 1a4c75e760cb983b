import WasmScope.Proofs.Decode.Nesting

namespace WasmScope

namespace Reader

variable {α : Type} {r : Reader α} {c rest : Cursor} {x : α}

def whole (r : Reader α) : Reader α := do
  let x ← r
  fun rest =>
    if rest.unread.isEmpty then .ok (x, rest)
    else .error (.trailingBytes rest.position rest.unread.length)

theorem whole_of_error {d : Defect} (h : r c = .error d) : r.whole c = .error d :=
  bind_eq_error.2 (.inl h)

theorem whole_of_ok (h : r c = .ok (x, rest)) :
    r.whole c = if rest.unread.isEmpty then .ok (x, rest)
      else .error (.trailingBytes rest.position rest.unread.length) := by
  split
  · next hempty => exact bind_eq_ok.2 ⟨x, rest, h, if_pos hempty⟩
  · next hempty => exact bind_eq_error.2 (.inr ⟨x, rest, h, if_neg hempty⟩)

theorem Shifts.whole {n : Nat} {r' : Reader α} (h : Shifts n (Defect.MovedBy n) r r') :
    Shifts n (Defect.MovedBy n) r.whole r'.whole := by
  apply h.bind
  intro x
  constructor
  · intro c y rest hr
    split at hr
    · next hempty =>
      cases hr
      exact if_pos hempty
    · cases hr
  · intro c d hr
    split at hr
    · cases hr
    · next hempty =>
      cases hr
      exact ⟨.trailingBytes (c.position + n) c.unread.length, if_neg hempty, rfl⟩

end Reader

theorem Expr.decode_eq_whole (limit : Nat) (code : List UInt8) :
    Expr.decode limit code =
      ((Reader.closedExpr { limit }).whole (.ofBytes code)).map Prod.fst := by
  rw [Expr.decode]
  cases hr : Reader.closedExpr { limit } (.ofBytes code) with
  | error d =>
    rw [Reader.whole_of_error hr]
    rfl
  | ok p =>
    rw [Reader.whole_of_ok hr]
    dsimp only
    split
    · rfl
    · rfl

namespace Decode

/-- Behind the local entries, a body that is read strictly is a whole expression. -/
theorem bodyContent_eq_whole {limit : Nat} {c mid : Cursor} {locals : List LocalEntry}
    (h : Reader.vector Reader.localEntry c = .ok (locals, mid)) (size : UInt32) :
    bodyContent ⟨true, limit⟩ size c =
      ((Reader.closedExpr { limit }).whole mid).map
        fun p => (⟨⟨size, locals, p.1⟩, none⟩, p.2) := by
  cases hr : Reader.closedExpr { limit } mid with
  | error d =>
    rw [Reader.whole_of_error hr]
    exact Reader.bind_eq_error.2 (.inr ⟨_, _, h, Reader.bind_eq_error.2 (.inl hr)⟩)
  | ok p =>
    obtain ⟨e, rest⟩ := p
    rw [Reader.whole_of_ok hr]
    by_cases hempty : rest.unread.isEmpty = true
    · rw [if_pos hempty]
      exact Reader.bind_eq_ok.2 ⟨_, _, h, Reader.bind_eq_ok.2 ⟨_, _, hr, if_pos hempty⟩⟩
    · rw [if_neg hempty]
      exact Reader.bind_eq_error.2 (.inr ⟨_, _, h, Reader.bind_eq_error.2
        (.inr ⟨_, _, hr, (if_neg hempty).trans (if_pos rfl)⟩)⟩)

end Decode

namespace Module

/-- What stands in front of the content of a body, in a module of one code section with that body
alone. Sizes and the count may be written in any number of bytes. -/
inductive FrontOfBody (version : FourBytes) (size : UInt32) (content : List UInt8) :
    List UInt8 → Prop
  | mk {ss cs bs : List UInt8} {n : UInt32} (sectionSize : Leb128.Unsigned ss n)
      (sectionExtent : n.toNat = (cs ++ (bs ++ content)).length)
      (count : Leb128.Unsigned cs 1) (bodySize : Leb128.Unsigned bs size)
      (bodyExtent : size.toNat = content.length) :
      FrontOfBody version size content
        (FourBytes.magic.toList ++ version.toList ++ (0x0A :: (ss ++ (cs ++ bs))))

end Module

namespace Decode

variable {options : DecodeOptions} {size : UInt32} {bs content : List UInt8}

theorem placedBody_eq (bodySize : Leb128.Unsigned bs size)
    (bodyExtent : size.toNat = content.length) (index position : Nat) :
    placedBody options index ⟨position, bs ++ content⟩ =
      ((bodyContent options size ⟨position + bs.length, content⟩).mapError (⟨[.body index], ·⟩)).map
        fun p => (p.1.body, ⟨position + bs.length + content.length, []⟩) := by
  have hsize := (Reader.reads_u32 _ _ _).2
    ⟨bs, bodySize, Cursor.spans_front position bs content⟩
  have hspan := Cursor.spans_front (position + bs.length) content []
  rw [List.append_nil] at hspan
  have hregion := Reader.region_natCast_eq_ok_iff.2 ⟨content, bodyExtent.symm, rfl, hspan⟩
  have hbody : body options ⟨position, bs ++ content⟩ = _ := body_eq hsize hregion
  cases hread : bodyContent options size ⟨position + bs.length, content⟩ with
  | error d =>
    rw [hread] at hbody
    exact Reader.bind_eq_error.2 (.inl (except_mapError_eq_error.2 ⟨d, hbody, rfl⟩))
  | ok p =>
    rw [hread] at hbody
    exact Reader.bind_eq_ok.2 ⟨p.1, _, placed_eq_ok_iff.2 hbody, rfl⟩

theorem answer_single {cs : List UInt8} (count : Leb128.Unsigned cs 1)
    (bodySize : Leb128.Unsigned bs size) (bodyExtent : size.toNat = content.length)
    (offset position : Nat) (n : UInt32) :
    SectionFrame.answer options ⟨.code, offset, n, ⟨position, cs ++ (bs ++ content)⟩⟩ =
      ((bodyContent options size ⟨position + cs.length + bs.length, content⟩).mapError
        (⟨[.content .code, .body 0], ·⟩)).map fun p => .code [p.1.body] := by
  have hcount := (reads_placed Reader.reads_u32 [] _ _ _).2
    ⟨cs, count, Cursor.spans_front position cs (bs ++ content)⟩
  have hbody : placedBody options 0 _ = _ :=
    placedBody_eq bodySize bodyExtent 0 (position + cs.length)
  cases hread : bodyContent options size ⟨position + cs.length + bs.length, content⟩ with
  | error d =>
    rw [hread] at hbody
    refine except_mapError_eq_error.2 ⟨⟨[.body 0], d⟩, except_map_eq_error.2 ?_, rfl⟩
    refine Reader.bind_eq_error.2 (.inr ⟨1, _, hcount, Reader.bind_eq_error.2 (.inl ?_)⟩)
    exact Reader.bind_eq_error.2 (.inl hbody)
  | ok p =>
    rw [hread] at hbody
    refine except_mapError_eq_ok.2 (except_map_eq_ok.2
      ⟨(.code [p.1.body], ⟨position + cs.length + bs.length + content.length, []⟩), ?_, rfl⟩)
    refine Reader.bind_eq_ok.2 ⟨1, _, hcount, Reader.bind_eq_ok.2 ⟨[p.1.body], _, ?_, rfl⟩⟩
    exact Reader.bind_eq_ok.2 ⟨p.1.body, _, hbody, rfl⟩

end Decode

namespace Module

variable {version : FourBytes} {size : UInt32} {before : List UInt8}

theorem FrontOfBody.decode_eq {content : List UInt8} (h : FrontOfBody version size content before)
    (options : DecodeOptions) :
    decode options (before ++ content) =
      ((Decode.bodyContent options size ⟨before.length, content⟩).mapError
        (⟨[.content .code, .body 0], ·⟩)).map
          fun p => ⟨.magic, version, [.code [p.1.body]]⟩ := by
  cases h with
  | @mk ss cs bs n sectionSize sectionExtent count bodySize bodyExtent =>
    have hlength : (FourBytes.magic.toList ++ version.toList ++
        (0x0A :: (ss ++ (cs ++ bs)))).length = 8 + 1 + ss.length + cs.length + bs.length := by
      simp only [FourBytes.toList, List.length_append, List.length_cons, List.length_nil]
      omega
    have hdata : (Cursor.mk 8 (0x0A :: (ss ++ (cs ++ bs)) ++ content)).unread =
        0x0A :: (ss ++ (cs ++ (bs ++ content)) ++ []) := by simp
    rw [hlength, List.append_assoc, decode_header, Decode.sectionList_cons hdata
      (Decode.sectionFrame_front sectionSize sectionExtent 8 []), Decode.sectionList_nil rfl]
    have hanswer : Decode.SectionFrame.answer options _ = _ :=
      Decode.answer_single count bodySize bodyExtent 8 (8 + 1 + ss.length) n
    cases hread : Decode.bodyContent options size
        ⟨8 + 1 + ss.length + cs.length + bs.length, content⟩ with
    | error d =>
      rw [hread] at hanswer
      exact except_map_eq_error.2 (except_bind_eq_error.2 (.inl hanswer))
    | ok p =>
      rw [hread] at hanswer
      exact except_map_eq_ok.2 ⟨_, except_bind_eq_ok.2 ⟨_, hanswer, rfl⟩, rfl⟩

theorem FrontOfBody.decode_eq_whole {code : List UInt8}
    (h : FrontOfBody version size (0x00 :: code) before) (limit : Nat) :
    let c := (Cursor.ofBytes code).shift (before.length + 1)
    decode ⟨true, limit⟩ (before ++ 0x00 :: code) =
      (((Reader.closedExpr { limit }).whole c).mapError (⟨[.content .code, .body 0], ·⟩)).map
        fun p => ⟨.magic, version, [.code [⟨size, [], p.1⟩]]⟩ := by
  intro c
  have hc : c = ⟨before.length + 1, code⟩ := Cursor.shift_ofBytes ⟨before.length + 1, code⟩
  have hlocals : Reader.vector Reader.localEntry ⟨before.length, 0x00 :: code⟩ = .ok ([], c) := by
    rw [hc]
    rfl
  rw [h.decode_eq, Decode.bodyContent_eq_whole hlocals]
  cases (Reader.closedExpr { limit }).whole c with
  | error d => rfl
  | ok p => rfl

end Module

namespace Expr

variable {version : FourBytes} {size : UInt32} {code before : List UInt8} {limit : Nat}

theorem decode_ok_body (h : Module.FrontOfBody version size (0x00 :: code) before) {e : Expr}
    (he : Expr.decode limit code = .ok e) :
    Module.decode ⟨true, limit⟩ (before ++ 0x00 :: code) =
      .ok ⟨.magic, version, [.code [⟨size, [], e⟩]]⟩ := by
  rw [decode_eq_whole] at he
  obtain ⟨⟨_, rest⟩, hr, rfl⟩ := except_map_eq_ok.1 he
  rw [h.decode_eq_whole, (Reader.shifts_closedExpr _).whole.ok hr]
  rfl

theorem decode_error_body (h : Module.FrontOfBody version size (0x00 :: code) before) {d : Defect}
    (hd : Expr.decode limit code = .error d) :
    ∃ f, Module.decode ⟨true, limit⟩ (before ++ 0x00 :: code) = .error f ∧
      d.MovedBy (before.length + 1) f.defect := by
  rw [decode_eq_whole] at hd
  obtain ⟨d', hd', hmoved⟩ :=
    (Reader.shifts_closedExpr { limit }).whole.error (except_map_eq_error.1 hd)
  rw [h.decode_eq_whole, hd']
  exact ⟨_, rfl, hmoved⟩

/-- An expression on its own is decoded as the code of the only body of a module is, at any limit
and with the same result; and both fail for the same reason, the module as many bytes further on as
stand before the code. -/
theorem decode_as_body (h : Module.FrontOfBody version size (0x00 :: code) before) (limit : Nat) :
    let answer := Module.decode ⟨true, limit⟩ (before ++ 0x00 :: code)
    (∀ e, Expr.decode limit code = .ok e ↔
        ∃ m fb, answer = .ok m ∧ m.bodies = [fb] ∧ fb.body = e) ∧
      (∀ d, Expr.decode limit code = .error d →
        ∃ f, answer = .error f ∧ d.MovedBy (before.length + 1) f.defect) ∧
      ∀ f, answer = .error f →
        ∃ d, Expr.decode limit code = .error d ∧ d.MovedBy (before.length + 1) f.defect := by
  intro answer
  cases hr : Expr.decode limit code with
  | ok e =>
    have hanswer : answer = .ok _ := decode_ok_body h hr
    rw [hanswer]
    refine ⟨fun e' => ⟨?_, ?_⟩, nofun, nofun⟩
    · intro he
      cases he
      exact ⟨_, _, rfl, rfl, rfl⟩
    · rintro ⟨m, fb, hm, hbodies, rfl⟩
      cases hm
      cases hbodies
      rfl
  | error d =>
    obtain ⟨f, hanswer, hmoved⟩ := decode_error_body h hr
    rw [show answer = .error f from hanswer]
    refine ⟨fun e => iff_of_false nofun ?_, ?_, ?_⟩
    · rintro ⟨m, fb, hm, -, -⟩
      cases hm
    · intro d' hd'
      cases hd'
      exact ⟨f, rfl, hmoved⟩
    · intro f' hf'
      cases hf'
      exact ⟨d, rfl, hmoved⟩

/-- Code that is closed twice, behind a count and a size that each take a byte too many. -/
theorem decode_as_body_trailing :
    let before : List UInt8 := [0x00, 0x61, 0x73, 0x6D, 2, 0, 0, 0,
      0x0A, 0x07, 0x81, 0x00, 0x83, 0x00]
    let code : List UInt8 := [0x0B, 0x0B]
    Module.FrontOfBody ⟨2, 0, 0, 0⟩ 3 (0x00 :: code) before ∧
      Expr.decode 1 code = .error (.trailingBytes 1 1) ∧
      ∃ f, Module.decode ⟨true, 1⟩ (before ++ 0x00 :: code) = .error f ∧
        (Defect.trailingBytes 1 1).MovedBy 15 f.defect := by
  intro before code
  have long {b : UInt8} (high : 128 ≤ b.toNat) : Leb128.Groups [b, 0x00] :=
    .more high (.last (by decide))
  have h : Module.FrontOfBody ⟨2, 0, 0, 0⟩ 3 (0x00 :: code) before :=
    @Module.FrontOfBody.mk _ _ _ [0x07] [0x81, 0x00] [0x83, 0x00] 7
      ⟨.last (by decide), by decide⟩ rfl ⟨long (by decide), by decide⟩
      ⟨long (by decide), by decide⟩ rfl
  have hfails : Expr.decode 1 code = .error (.trailingBytes 1 1) := by decide +kernel
  exact ⟨h, hfails, (decode_as_body h 1).2.1 _ hfails⟩

end Expr

end WasmScope

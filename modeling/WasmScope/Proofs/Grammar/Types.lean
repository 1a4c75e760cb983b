import WasmScope.Decode.Types
import WasmScope.Proofs.Binary.Leb128

namespace WasmScope

inductive Format.Counted {α : Type} (F : Format α) : Format (List α)
  | mk {front back : List UInt8} {n : UInt32} {xs : List α} (count : Leb128.Unsigned front n)
      (length : n.toNat = xs.length) (items : F.Many back xs) : Counted F (front ++ back) xs

inductive Name.Written : Format String
  | mk {front : List UInt8} {n : UInt32} {s : String} (size : Leb128.Unsigned front n)
      (extent : n.toNat = s.toByteArray.data.toList.length) :
      Written (front ++ s.toByteArray.data.toList) s

inductive ValType.Written : Format ValType
  | i32 : Written [0x7F] .i32
  | i64 : Written [0x7E] .i64
  | f32 : Written [0x7D] .f32
  | f64 : Written [0x7C] .f64
  | funcref : Written [0x70] .funcref
  | externref : Written [0x6F] .externref

inductive FuncType.Written : Format FuncType
  | mk {t : FuncType} {ps rs : List UInt8} (params : Format.Counted ValType.Written ps t.params)
      (results : Format.Counted ValType.Written rs t.results) : Written (0x60 :: (ps ++ rs)) t

inductive Export.Written : Format Export
  | mk {e : Export} {ns is : List UInt8} (name : Name.Written ns e.name)
      (index : Leb128.Unsigned is e.index) : Written (ns ++ e.kind.code :: is) e

inductive LocalEntry.Written : Format LocalEntry
  | mk {l : LocalEntry} {cs ts : List UInt8} (count : Leb128.Unsigned cs l.count)
      (type : ValType.Written ts l.type) : Written (cs ++ ts) l

/-- No results, one result, or a type index. An index is a signed integer that is not negative and
does not begin like the other two forms. -/
inductive BlockType.Written : Format BlockType
  | empty : Written [0x40] .empty
  | value {bs : List UInt8} {t : ValType} (type : ValType.Written bs t) : Written bs (.ofValue t)
  | index {lead : UInt8} {bs : List UInt8} {i : Int32} (index : Leb128.Signed (lead :: bs) i)
      (notEmpty : lead ≠ 0x40) (notValue : ∀ t, ¬ ValType.Written [lead] t) (natural : 0 ≤ i) :
      Written (lead :: bs) (.ofIndex i)

theorem Format.Counted.part {α : Type} {F : Format α} {bs : List UInt8} {xs : List α}
    (h : F.Counted bs xs) {x : α} (hx : x ∈ xs) : ∃ part, part <:+: bs ∧ F part x := by
  obtain ⟨_, _, items⟩ := h
  obtain ⟨part, hpart, hw⟩ := items.part hx
  exact ⟨part, hpart.trans (List.suffix_append _ _).isInfix, hw⟩

theorem Format.Counted.forall {α : Type} {F : Format α} {bs : List UInt8} {xs : List α}
    {P : α → Prop} (h : F.Counted bs xs) (hp : ∀ {bs x}, F bs x → P x) : ∀ x ∈ xs, P x := by
  obtain ⟨_, _, items⟩ := h
  exact items.forall hp

theorem Format.Counted.length_lt {α : Type} {F : Format α} {bs : List UInt8} {xs : List α}
    (h : F.Counted bs xs) : xs.length < UInt32.size := by
  obtain ⟨_, length, _⟩ := h
  rw [← length]
  exact UInt32.toNat_lt_size _

namespace ValType

/-- The tags that readers let pass are the six of the format. -/
theorem written_iff {bs : List UInt8} {t : ValType} :
    Written bs t ↔ bs = [t.tag] ∧ t.isValid = true := by
  constructor
  · intro h
    cases h <;> exact ⟨rfl, rfl⟩
  · rintro ⟨rfl, hv⟩
    obtain ⟨tag⟩ := t
    unfold isValid valClass at hv
    dsimp only at hv ⊢
    split at hv
    · exact .i32
    · exact .i64
    · exact .f32
    · exact .f64
    · exact .funcref
    · exact .externref
    · cases hv

theorem Written.isValid {bs : List UInt8} {t : ValType} (h : Written bs t) : t.isValid = true :=
  (written_iff.1 h).2

theorem written_of_isValid {t : ValType} (h : t.isValid = true) : Written [t.tag] t :=
  written_iff.2 ⟨rfl, h⟩

theorem not_written_iff {tag : UInt8} :
    (∀ t, ¬ Written [tag] t) ↔ isValid ⟨tag⟩ = false := by
  rw [← Bool.not_eq_true]
  constructor
  · intro h hv
    exact h ⟨tag⟩ (written_of_isValid hv)
  · rintro h t ht
    obtain ⟨htag, hv⟩ := written_iff.1 ht
    cases htag
    exact h hv

end ValType

theorem LocalEntry.Written.isValid {bs : List UInt8} {l : LocalEntry} (h : Written bs l) :
    l.type.isValid = true := by
  obtain ⟨_, type⟩ := h
  exact type.isValid

theorem fromUTF8_eq_some_iff {bs : List UInt8} {s : String} :
    String.fromUTF8? bs.toByteArray = some s ↔ bs = s.toByteArray.data.toList := by
  unfold String.fromUTF8?
  constructor
  · intro h
    split at h
    · cases h
      simp [String.fromUTF8]
    · cases h
  · rintro rfl
    have hs : s.toByteArray.data.toList.toByteArray = s.toByteArray := by
      apply ByteArray.ext
      simp
    have hv : s.toByteArray.data.toList.toByteArray.IsValidUTF8 := by
      rw [hs]
      exact s.isValidUTF8
    rw [dif_pos hv]
    simp only [String.fromUTF8, hs]

theorem BlockType.Written.cases_lead {bs : List UInt8} {bt : BlockType} (h : Written bs bt) :
    ∃ lead back, bs = lead :: back ∧
      ((lead = 0x40 ∧ back = [] ∧ bt = .empty) ∨
        (lead ≠ 0x40 ∧ ValType.isValid ⟨lead⟩ = true ∧ back = [] ∧ bt = .ofValue ⟨lead⟩) ∨
        (lead ≠ 0x40 ∧ ValType.isValid ⟨lead⟩ = false ∧
          ∃ i, Leb128.Signed bs i ∧ 0 ≤ i ∧ bt = .ofIndex i)) := by
  cases h with
  | empty => exact ⟨0x40, [], rfl, .inl ⟨rfl, rfl, rfl⟩⟩
  | value type =>
    have hv := type.isValid
    cases type <;> exact ⟨_, [], rfl, .inr (.inl ⟨by decide, hv, rfl, rfl⟩)⟩
  | index index notEmpty notValue natural =>
    have hv := ValType.not_written_iff.1 notValue
    exact ⟨_, _, rfl, .inr (.inr ⟨notEmpty, hv, _, index, natural, rfl⟩)⟩

namespace Reader

theorem reads_vector {α : Type} {element : Reader α} {F : Format α} (h : Reads element F) :
    Reads (vector element) F.Counted := by
  apply (reads_u32.bind fun n => reads_repeated (fun _ => h) n.toNat 0 []).congr
  intro bs xs
  constructor
  · intro hw
    obtain ⟨n, front, back, hn, ⟨new, hm, hlen, rfl⟩, rfl⟩ := hw
    exact ⟨hn, hlen.symm, hm⟩
  · intro hw
    obtain ⟨hn, hlen, hm⟩ := hw
    exact ⟨_, _, _, hn, ⟨_, hm, hlen.symm, rfl⟩, rfl⟩

theorem reads_name : Reads name Name.Written := by
  intro c s rest
  unfold name
  constructor
  · intro h
    obtain ⟨n, mid, hn, h⟩ := bind_eq_ok.1 h
    obtain ⟨position, _, hposition, h⟩ := bind_eq_ok.1 h
    cases hposition
    obtain ⟨bytes, last, hbytes, h⟩ := bind_eq_ok.1 h
    obtain ⟨front, hfront, hs⟩ := (reads_u32 _ _ _).1 hn
    obtain ⟨_, ⟨rfl, hlength⟩, hs'⟩ := (reads_bytes _ _ _ _).1 hbytes
    cases htext : String.fromUTF8? bytes.toByteArray with
    | none =>
      rw [htext] at h
      cases h
    | some s' =>
      rw [htext] at h
      cases h
      obtain rfl := fromUTF8_eq_some_iff.1 htext
      exact ⟨_, ⟨hfront, hlength.symm⟩, hs.append hs'⟩
  · intro h
    obtain ⟨_, ⟨size, extent⟩, hs⟩ := h
    obtain ⟨mid, hfront, hname⟩ := hs.split
    have hn := (reads_u32 _ _ _).2 ⟨_, size, hfront⟩
    have hbytes := (reads_bytes _ _ _ _).2 ⟨_, ⟨rfl, extent.symm⟩, hname⟩
    refine bind_eq_ok.2 ⟨_, mid, hn, bind_eq_ok.2 ⟨mid.position, mid, rfl, ?_⟩⟩
    refine bind_eq_ok.2 ⟨_, rest, hbytes, ?_⟩
    rw [fromUTF8_eq_some_iff.2 rfl]
    rfl

theorem reads_valType : Reads valType ValType.Written := by
  refine (reads_position_bind fun position => reads_byte_bind fun tag =>
    reads_guard (ValType.isValid ⟨tag⟩ = true) fun _ => reads_pure (ValType.mk tag)).congr fun bs t => ?_
  constructor
  · intro h
    obtain ⟨tag, back, rfl, hv, rfl, rfl⟩ := h
    exact ValType.written_of_isValid hv
  · intro h
    obtain ⟨rfl, hv⟩ := ValType.written_iff.1 h
    exact ⟨t.tag, [], rfl, hv, rfl, rfl⟩

theorem reads_localEntry : Reads localEntry LocalEntry.Written := by
  refine (reads_u32.bind fun count => reads_valType.bind_pure (LocalEntry.mk count)).congr
    fun bs l => ?_
  constructor
  · intro h
    obtain ⟨count, cs, ts, hc, ⟨type, ht, rfl⟩, rfl⟩ := h
    exact ⟨hc, ht⟩
  · intro h
    obtain ⟨hc, ht⟩ := h
    exact ⟨_, _, _, hc, ⟨_, ht, rfl⟩, rfl⟩

theorem reads_exportEntry : Reads exportEntry Export.Written := by
  refine (reads_name.bind fun name => reads_byte_bind fun kind =>
    reads_u32.bind_pure (Export.mk name ⟨kind⟩)).congr fun bs e => ?_
  constructor
  · intro h
    obtain ⟨name, ns, back, hn, ⟨kind, is, rfl, index, hi, rfl⟩, rfl⟩ := h
    exact .mk (e := ⟨name, ⟨kind⟩, index⟩) hn hi
  · intro h
    obtain ⟨hn, hi⟩ := h
    exact ⟨_, _, _, hn, ⟨_, _, rfl, _, hi, rfl⟩, rfl⟩

theorem reads_funcType : Reads funcType FuncType.Written := by
  have htypes := reads_vector reads_valType
  refine (reads_position_bind fun position => reads_byte_bind fun tag =>
    reads_guard (tag = funcTypeTag) fun _ => htypes.bind fun params =>
      htypes.bind_pure (FuncType.mk params)).congr fun bs t => ?_
  constructor
  · intro h
    obtain ⟨tag, back, rfl, rfl, params, ps, rs, hp, ⟨results, hr, rfl⟩, rfl⟩ := h
    exact ⟨hp, hr⟩
  · intro h
    obtain ⟨hp, hr⟩ := h
    exact ⟨_, _, rfl, rfl, _, _, _, hp, ⟨_, hr, rfl⟩, rfl⟩

theorem blockType_eq_ok_iff {position : Nat} {lead : UInt8} {after : List UInt8} {bt : BlockType}
    {rest : Cursor} :
    blockType ⟨position, lead :: after⟩ = .ok (bt, rest) ↔
      (lead = 0x40 ∧ rest = ⟨position + 1, after⟩ ∧ bt = .empty) ∨
      (lead ≠ 0x40 ∧ ValType.isValid ⟨lead⟩ = true ∧ rest = ⟨position + 1, after⟩ ∧
        bt = .ofValue ⟨lead⟩) ∨
      (lead ≠ 0x40 ∧ ValType.isValid ⟨lead⟩ = false ∧
        ∃ i, s32 ⟨position, lead :: after⟩ = .ok (i, rest) ∧ 0 ≤ i ∧ bt = .ofIndex i) := by
  constructor
  · intro h
    simp only [blockType, byte, emptyBlockTag] at h
    split at h
    · next he =>
      cases h
      exact .inl ⟨he, rfl, rfl⟩
    · next he =>
      split at h
      · next hv =>
        cases h
        exact .inr (.inl ⟨he, hv, rfl, rfl⟩)
      · next hv =>
        split at h
        · cases h
        · next i mid hi =>
          split at h
          · cases h
          · next hneg =>
            cases h
            exact .inr (.inr ⟨he, Bool.eq_false_of_not_eq_true hv, i, hi, Int32.not_lt.1 hneg, rfl⟩)
  · intro hw
    rcases hw with ⟨rfl, rfl, rfl⟩ | ⟨he, hv, rfl, rfl⟩ | ⟨he, hv, i, hi, hnat, rfl⟩
    · rfl
    · simp [blockType, byte, emptyBlockTag, he, hv]
    · simp [blockType, byte, emptyBlockTag, he, hv, hi, Int32.not_lt.2 hnat]

theorem reads_blockType : Reads blockType BlockType.Written := by
  intro c bt rest
  obtain ⟨position, unread⟩ := c
  cases unread with
  | nil =>
    constructor
    · intro h
      cases h
    · intro hp
      obtain ⟨bs, hw, hs⟩ := hp
      obtain ⟨lead, back, rfl, -⟩ := hw.cases_lead
      cases hs.unread
  | cons lead after =>
    have hlead := Cursor.spans_front position [lead] after
    have hsigned (i : Int32) := reads_s32 ⟨position, lead :: after⟩ i rest
    rw [blockType_eq_ok_iff]
    constructor
    · intro hp
      rcases hp with ⟨rfl, rfl, rfl⟩ | ⟨he, hv, rfl, rfl⟩ | ⟨he, hv, i, hi, hnat, rfl⟩
      · exact ⟨[0x40], .empty, hlead⟩
      · exact ⟨[lead], .value (ValType.written_of_isValid hv), hlead⟩
      · obtain ⟨bs, hw, hs⟩ := (hsigned i).1 hi
        obtain ⟨lead', back, rfl⟩ := List.exists_cons_of_ne_nil hw.1.ne_nil
        obtain ⟨rfl, -⟩ := List.cons.inj hs.unread
        exact ⟨lead :: back, .index hw he (ValType.not_written_iff.2 hv) hnat, hs⟩
    · intro hp
      obtain ⟨bs, hw, hs⟩ := hp
      obtain ⟨lead', back, rfl, hform⟩ := hw.cases_lead
      obtain ⟨rfl, hafter⟩ := List.cons.inj hs.unread
      rcases hform with ⟨he, rfl, rfl⟩ | ⟨he, hv, rfl, rfl⟩ | ⟨he, hv, i, hi, hnat, rfl⟩
      · exact .inl ⟨he, hs.unique hlead, rfl⟩
      · exact .inr (.inl ⟨he, hv, hs.unique hlead, rfl⟩)
      · exact .inr (.inr ⟨he, hv, i, (hsigned i).2 ⟨_, hi, hs⟩, hnat, rfl⟩)

end Reader

end WasmScope

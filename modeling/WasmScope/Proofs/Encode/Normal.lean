import WasmScope.Module.Encode
import WasmScope.Proofs.Grammar.Module

namespace WasmScope

/-- The field that the kind selects and no other; a kind without a meaning counts as none. -/
def BlockType.norm (bt : BlockType) : BlockType :=
  match bt.kind.code with
  | 1 => .ofValue bt.value
  | 2 => .ofIndex bt.typeIndex
  | _ => .empty

mutual

/-- Nested expressions are closed by an end, except a first branch that another one follows. -/
def Instr.norm : Instr → Instr
  | .localVar access index => .localVar access index
  | .const value => .const value
  | .numeric op => .numeric op
  | .branch mode label => .branch mode label
  | .block shape type body => .block shape type.norm (body.norm .close)
  | .cond type thn els =>
    if hasElseBranch thn els then .cond type.norm (thn.norm .otherwise) (els.norm .close)
    else .cond type.norm (thn.norm .close) .unset

def Expr.norm : Expr → Opcode → Expr
  | .close _, t => .close t
  | .cons head tail, t => .cons head.norm (tail.norm t)

end

/-- The size is the one that the body has as written. -/
def FuncBody.norm (fb : FuncBody) : FuncBody :=
  ⟨UInt32.ofNat fb.encodeContent.length, fb.locals, fb.body.norm .close⟩

def Section.mapBodies (f : FuncBody → FuncBody) : Section → Section
  | .types entries => .types entries
  | .functions entries => .functions entries
  | .exports entries => .exports entries
  | .code entries => .code (entries.map f)

def Section.norm (s : Section) : Section := s.mapBodies FuncBody.norm

/-- A header that is not set is that of version 1. -/
def Module.norm (m : Module) : Module :=
  ⟨m.encodedMagic, m.encodedVersion, m.sections.map Section.norm⟩

/-- A result is of one of the six types, and a type index is not negative. -/
def BlockType.Encodable (bt : BlockType) : Prop :=
  (bt.kind = .value → bt.value.isValid = true) ∧ (bt.kind = .typeIndex → 0 ≤ bt.typeIndex)

mutual

def Instr.Encodable : Instr → Prop
  | .localVar _ _ => True
  | .const _ => True
  | .numeric _ => True
  | .branch _ _ => True
  | .block _ type body => type.Encodable ∧ body.Encodable
  | .cond type thn els => type.Encodable ∧ thn.Encodable ∧ els.Encodable

def Expr.Encodable : Expr → Prop
  | .close _ => True
  | .cons head tail => head.Encodable ∧ tail.Encodable

end

mutual

def Instr.nesting : Instr → Nat
  | .localVar _ _ => 0
  | .const _ => 0
  | .numeric _ => 0
  | .branch _ _ => 0
  | .block _ _ body => body.nesting + 1
  | .cond _ thn els => max thn.nesting els.nesting + 1

def Expr.nesting : Expr → Nat
  | .close _ => 0
  | .cons head tail => max head.nesting tail.nesting

end

/-- A body of valid types that no else closes and that nests at most `limit` deep. -/
structure FuncBody.Encodable (limit : Nat) (fb : FuncBody) : Prop where
  locals : ∀ l ∈ fb.locals, l.type.isValid = true
  types : fb.body.Encodable
  closed : fb.body.terminator ≠ .otherwise
  nesting : fb.body.nesting ≤ limit

def FuncType.Encodable (t : FuncType) : Prop :=
  (∀ v ∈ t.params, v.isValid = true) ∧ ∀ v ∈ t.results, v.isValid = true

def Section.Encodable (limit : Nat) : Section → Prop
  | .types entries => ∀ t ∈ entries, t.Encodable
  | .functions _ => True
  | .exports _ => True
  | .code entries => ∀ fb ∈ entries, fb.Encodable limit

/-- A module that can be written: its magic bytes are right or not set, its entries can be written,
and no section has 2³² bytes or more. Vectors, names and bodies are parts of sections, so the bound
holds of them as well. -/
structure Module.Encodable (limit : Nat) (m : Module) : Prop where
  magic : m.magic = .zero ∨ m.magic = .magic
  entries : ∀ s ∈ m.sections, s.Encodable limit
  fits : ∀ s ∈ m.sections, s.encodeContent.length < UInt32.size

theorem Leb128.unsigned_length {n : Nat} (h : n < UInt32.size) :
    Unsigned (Output.length n) (UInt32.ofNat n) ∧ (UInt32.ofNat n).toNat = n :=
  ⟨unsigned_u32 _, UInt32.toNat_ofNat_of_lt' h⟩

theorem Format.many_flatMap {α β : Type} {F : Format β} {encode : α → List UInt8} {norm : α → β}
    {xs : List α} (h : ∀ x ∈ xs, F (encode x) (norm x)) :
    F.Many (xs.flatMap encode) (xs.map norm) := by
  induction xs with
  | nil => exact .nil
  | cons x xs ih =>
    rw [List.flatMap_cons, List.map_cons]
    exact .cons (h x List.mem_cons_self) (ih fun y hy => h y (List.mem_cons_of_mem x hy))

theorem ValType.Written.tag_bounds {tag : UInt8} {t : ValType} (h : Written [tag] t) :
    64 < tag.toNat ∧ tag.toNat < 128 := by
  cases h <;> decide

theorem Leb128.signedGroups_lead (more : Nat) {n : Int} (hn : 0 ≤ n) :
    ∃ lead back, signedGroups (more + 1) n = lead :: back ∧
      (lead.toNat < 64 ∨ 128 ≤ lead.toNat) := by
  rw [signedGroups]
  split
  · refine ⟨_, [], rfl, .inl ?_⟩
    rw [toNat_toUInt8 (by omega)]
    omega
  · refine ⟨_, _, rfl, .inr ?_⟩
    rw [toNat_toUInt8 (by omega)]
    omega

theorem BlockType.encode_other {bt : BlockType} (hv : bt.kind ≠ .value)
    (hi : bt.kind ≠ .typeIndex) : bt.encode = [0x40] ∧ bt.norm = .empty := by
  obtain ⟨⟨code⟩, value, index⟩ := bt
  constructor
  · unfold encode
    split
    · next hcode => exact absurd (congrArg BlockKind.mk hcode) hv
    · next hcode => exact absurd (congrArg BlockKind.mk hcode) hi
    · rfl
  · unfold norm
    split
    · next hcode => exact absurd (congrArg BlockKind.mk hcode) hv
    · next hcode => exact absurd (congrArg BlockKind.mk hcode) hi
    · rfl

theorem BlockType.Encodable.written {bt : BlockType} (h : bt.Encodable) :
    Written bt.encode bt.norm := by
  obtain ⟨hvalue, hindex⟩ := h
  by_cases hv : bt.kind = .value
  · obtain ⟨kind, value, index⟩ := bt
    obtain rfl : kind = .value := hv
    exact .value (ValType.written_of_isValid (hvalue rfl))
  by_cases hi : bt.kind = .typeIndex
  · obtain ⟨kind, value, index⟩ := bt
    obtain rfl : kind = .typeIndex := hi
    have hnat : 0 ≤ index := hindex rfl
    obtain ⟨lead, back, hbytes, hlead⟩ := Leb128.signedGroups_lead 3 (Int32.le_iff_toInt_le.1 hnat)
    have hw := Leb128.signed_s32 index
    change Written (Output.s32 index) (.ofIndex index)
    rw [Output.s32, hbytes] at hw ⊢
    refine .index hw ?_ ?_ hnat
    · rintro rfl
      revert hlead
      decide
    · intro t ht
      have hbounds := ht.tag_bounds
      omega
  · obtain ⟨hencode, hnorm⟩ := encode_other hv hi
    rw [hencode, hnorm]
    exact .empty

namespace Expr

theorem norm_eq (e : Expr) (t : Opcode) : e.norm t = ofInstrs (e.instrs.map Instr.norm) t := by
  match e with
  | .close _ => rfl
  | .cons head tail => exact congrArg (Expr.cons head.norm) (norm_eq tail t)

end Expr

theorem nesting_room {n room : Nat} (h : n + 1 ≤ room) : ∃ inner, room = inner + 1 ∧ n ≤ inner :=
  ⟨room - 1, by omega, by omega⟩

mutual

theorem Instr.Encodable.code {room : Nat} {back : List UInt8} {js : List Instr} :
    ∀ {i : Instr}, i.Encodable → i.nesting ≤ room → Instr.Code room back js →
      Instr.Code room (i.encode ++ back) (i.norm :: js)
  | .localVar access index, _, _, hback => .plain (.localVar access (Leb128.unsigned_u32 index)) hback
  | .const value, _, _, hback => .plain (.const (Leb128.signed_s32 value)) hback
  | .numeric op, _, _, hback => .plain (.numeric op) hback
  | .branch mode label, _, _, hback => .plain (.branch mode (Leb128.unsigned_u32 label)) hback
  | .block shape type body, h, hn, hback => by
    obtain ⟨inner, rfl, hbody⟩ := nesting_room hn
    have hcode := Expr.Encodable.code h.2 hbody
    rw [Instr.norm, Expr.norm_eq]
    simpa [Instr.encode] using .block shape h.1.written hcode hback
  | .cond type thn els, h, hn, hback => by
    obtain ⟨inner, rfl, hbranches⟩ := nesting_room hn
    have hthn := Expr.Encodable.code h.2.1 ((Nat.le_max_left _ _).trans hbranches)
    have hels := Expr.Encodable.code h.2.2 ((Nat.le_max_right _ _).trans hbranches)
    rw [Instr.norm, Instr.encode]
    split
    · rw [Expr.norm_eq, Expr.norm_eq]
      simpa using .condElse h.1.written hthn hels hback
    · rw [Expr.norm_eq]
      simpa using .cond h.1.written hthn hback

theorem Expr.Encodable.code {room : Nat} :
    ∀ {e : Expr}, e.Encodable → e.nesting ≤ room →
      Instr.Code room e.encodeInstrs (e.instrs.map Instr.norm)
  | .close _, _, _ => .nil
  | .cons head tail, h, hn => by
    rw [Expr.nesting] at hn
    have htail := Expr.Encodable.code h.2 ((Nat.le_max_right _ _).trans hn)
    exact Instr.Encodable.code h.1 ((Nat.le_max_left _ _).trans hn) htail

end

namespace Output

variable {α : Type} {element : α → List UInt8}

theorem length_le_vector {x : α} {xs : List α} (h : x ∈ xs) :
    (element x).length ≤ (vector element xs).length := by
  have hsub : (element x).Sublist (xs.flatMap element) := by
    rw [List.flatMap]
    exact List.sublist_flatten_of_mem (List.mem_map_of_mem h)
  rw [vector, List.length_append]
  exact hsub.length_le.trans (Nat.le_add_left _ _)

theorem count_le_vector {xs : List α} (h : ∀ x, element x ≠ []) :
    xs.length ≤ (vector element xs).length := by
  have hcount : xs.length ≤ (xs.flatMap element).length := by
    induction xs with
    | nil => exact Nat.le_refl 0
    | cons x xs ih =>
      have hpos := List.length_pos_iff.2 (h x)
      rw [List.flatMap_cons, List.length_append, List.length_cons]
      omega
  rw [vector, List.length_append]
  exact hcount.trans (Nat.le_add_left _ _)

theorem length_le_sized (data : List UInt8) : data.length ≤ (sized data).length := by
  rw [sized, List.length_append]
  exact Nat.le_add_left _ _

theorem u32_ne_nil (n : UInt32) : u32 n ≠ [] := (Leb128.unsigned_u32 n).1.ne_nil

theorem sized_ne_nil (data : List UInt8) : sized data ≠ [] := by
  intro h
  exact u32_ne_nil _ (List.append_eq_nil_iff.1 h).1

end Output

/-- A vector below the bound is written as one, since its count and its elements are below it too. -/
theorem Format.counted_vector {α β : Type} {F : Format β} (element : α → List UInt8)
    (norm : α → β) {xs : List α}
    (h : ∀ x ∈ xs, (element x).length < UInt32.size → F (element x) (norm x))
    (hne : ∀ x, element x ≠ []) (hfits : (Output.vector element xs).length < UInt32.size) :
    F.Counted (Output.vector element xs) (xs.map norm) := by
  obtain ⟨hcount, hn⟩ := Leb128.unsigned_length ((Output.count_le_vector hne).trans_lt hfits)
  refine .mk hcount (by rw [hn, List.length_map]) (many_flatMap fun x hx => ?_)
  exact h x hx ((Output.length_le_vector hx).trans_lt hfits)

theorem Format.counted_vector_self {α : Type} {F : Format α} (element : α → List UInt8)
    {xs : List α} (h : ∀ x ∈ xs, (element x).length < UInt32.size → F (element x) x)
    (hne : ∀ x, element x ≠ []) (hfits : (Output.vector element xs).length < UInt32.size) :
    F.Counted (Output.vector element xs) xs := by
  have hw := counted_vector element id h hne hfits
  rwa [List.map_id] at hw

theorem ValType.written_encodeAll {types : List ValType} (h : ∀ t ∈ types, t.isValid = true)
    (hfits : (encodeAll types).length < UInt32.size) :
    Format.Counted ValType.Written (encodeAll types) types :=
  Format.counted_vector_self _ (fun t ht _ => written_of_isValid (h t ht)) (fun _ => List.cons_ne_nil _ _) hfits

theorem FuncType.Encodable.written {t : FuncType} (h : t.Encodable)
    (hfits : t.encode.length < UInt32.size) : FuncType.Written t.encode t := by
  unfold FuncType.encode at hfits ⊢
  simp only [List.cons_append, List.length_cons, List.length_append] at hfits
  exact .mk (ValType.written_encodeAll h.1 (by omega)) (ValType.written_encodeAll h.2 (by omega))

theorem Export.written {e : Export} (hfits : e.encode.length < UInt32.size) :
    Export.Written e.encode e := by
  unfold Export.encode Output.name at hfits ⊢
  have hname := (Output.length_le_sized e.name.toByteArray.data.toList)
  rw [List.length_append] at hfits
  obtain ⟨hsize, hn⟩ := Leb128.unsigned_length
    (n := e.name.toByteArray.data.toList.length) (by omega)
  exact .mk (.mk hsize hn) (Leb128.unsigned_u32 e.index)

theorem LocalEntry.written {l : LocalEntry} (h : l.type.isValid = true) :
    LocalEntry.Written l.encode l :=
  .mk (Leb128.unsigned_u32 l.count) (ValType.written_of_isValid h)

theorem FuncBody.Encodable.written {options : DecodeOptions} {fb : FuncBody}
    (h : fb.Encodable options.maxNesting) (hfits : fb.encode.length < UInt32.size) :
    FuncBody.Written options fb.encode fb.norm := by
  have hcontent := (Output.length_le_sized fb.encodeContent).trans_lt hfits
  obtain ⟨hsize, hn⟩ := Leb128.unsigned_length hcontent
  have hlocals : Format.Counted LocalEntry.Written (Output.vector LocalEntry.encode fb.locals)
      fb.locals := by
    rw [FuncBody.encodeContent, List.length_append] at hcontent
    refine Format.counted_vector_self _ (fun l hl _ => LocalEntry.written (h.locals l hl))
      (fun l he => ?_)
      (by omega)
    exact Output.u32_ne_nil _ (List.append_eq_nil_iff.1 he).1
  have hcode : Expr.Written options.maxNesting .close fb.body.encode (fb.body.norm .close) := by
    rw [Expr.encode, if_neg h.closed, Expr.norm_eq]
    exact .mk (h.types.code h.nesting)
  have hbytes : fb.encodeContent =
      Output.vector LocalEntry.encode fb.locals ++ (fb.body.encode ++ []) := by
    rw [List.append_nil]
    rfl
  have hlength : fb.norm.size.toNat =
      (Output.vector LocalEntry.encode fb.locals ++ (fb.body.encode ++ [])).length := by
    rw [← hbytes]
    exact hn
  have hw := FuncBody.Written.mk hsize hlength hlocals hcode fun _ => rfl
  rwa [← hbytes] at hw

theorem Section.Encodable.content {options : DecodeOptions} {s : Section}
    (h : s.Encodable options.maxNesting) (hfits : s.encodeContent.length < UInt32.size) :
    Section.Content options s.encodeContent s.norm := by
  cases s with
  | types entries =>
    exact .types (Format.counted_vector_self FuncType.encode (fun t ht => (h t ht).written)
      (fun _ => List.cons_ne_nil _ _) hfits)
  | functions entries =>
    exact .functions (Format.counted_vector_self Output.u32
      (fun n _ _ => Leb128.unsigned_u32 n) Output.u32_ne_nil hfits)
  | exports entries =>
    exact .exports (Format.counted_vector_self Export.encode (fun e _ => Export.written)
      (fun e he => Output.sized_ne_nil _ (List.append_eq_nil_iff.1 he).1) hfits)
  | code entries =>
    exact .code (Format.counted_vector FuncBody.encode FuncBody.norm
      (fun fb hfb => (h fb hfb).written) (fun fb => Output.sized_ne_nil _) hfits)

theorem Section.id_mapBodies (f : FuncBody → FuncBody) (s : Section) :
    (s.mapBodies f).id = s.id := by
  cases s <;> rfl

theorem Section.Encodable.written {options : DecodeOptions} {s : Section}
    (h : s.Encodable options.maxNesting) (hfits : s.encodeContent.length < UInt32.size) :
    Section.Written options s.encode s.norm := by
  obtain ⟨hsize, hn⟩ := Leb128.unsigned_length hfits
  have hw := Section.Written.mk hsize (by rw [hn, List.append_nil]) (h.content hfits)
  rw [List.append_nil, Section.norm, Section.id_mapBodies] at hw
  exact hw

theorem Module.Encodable.written {options : DecodeOptions} {m : Module}
    (h : m.Encodable options.maxNesting) : Module.Written options m.encode m.norm := by
  have hmagic : m.encodedMagic = .magic := by
    unfold Module.encodedMagic
    split
    · rfl
    · next hz => exact h.magic.resolve_left hz
  have hsections := Format.many_flatMap fun s hs => (h.entries s hs).written (h.fits s hs)
  rw [Module.encode, Module.norm, hmagic, List.append_assoc]
  exact .mk m.encodedVersion hsections

/-- Decoding undoes encoding up to normal form, whether bodies are read strictly or not. -/
theorem Module.decode_encode {options : DecodeOptions} {m : Module}
    (h : m.Encodable options.maxNesting) : decode options m.encode = .ok m.norm :=
  decode_eq_ok_iff.2 h.written

/-- A conditional whose first branch nothing closes comes back with both branches closed. -/
theorem Module.decode_encode_unclosed :
    let m : Module := ⟨.zero, .zero, [.code [⟨9, [⟨2, .i32⟩], .cons (.cond ⟨.value, .i32, 7⟩
      (.close .unset) (.cons (.const 5) (.close .br))) (.close .unset)⟩]]⟩
    m.Encodable 1 ∧ decode ⟨true, 1⟩ m.encode = .ok ⟨.magic, .version1, [.code [⟨10, [⟨2, .i32⟩],
      .cons (.cond (.ofValue .i32) (.close .otherwise) (.cons (.const 5) (.close .close)))
        (.close .close)⟩]]⟩ := by
  intro m
  have hbody : ∀ s ∈ m.sections, s.Encodable 1 := by
    intro s hs
    obtain rfl := List.mem_singleton.1 hs
    intro fb hfb
    obtain rfl := List.mem_singleton.1 hfb
    refine ⟨by decide, ?_, by decide, by decide⟩
    simp only [Expr.Encodable, Instr.Encodable, BlockType.Encodable]
    decide
  have hfits : ∀ s ∈ m.sections, s.encodeContent.length < UInt32.size := by decide
  have h : m.Encodable 1 := ⟨.inl rfl, hbody, hfits⟩
  exact ⟨h, decode_encode h⟩

end WasmScope

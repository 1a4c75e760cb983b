import WasmScope.Proofs.Grammar.Module
import WasmScope.Proofs.Module.Walk

namespace WasmScope

/-- Only the field that the kind selects is set. -/
inductive BlockType.Regular : BlockType → Prop
  | empty : Regular ⟨.empty, .unset, 0⟩
  | value {t : ValType} (valid : t.isValid = true) : Regular ⟨.value, t, 0⟩
  | typeIndex {i : Int32} (natural : 0 ≤ i) : Regular ⟨.typeIndex, .unset, i⟩

/-- The block type of the instruction is regular, and the expressions it owns are closed as they
should be: a second branch is either unset or behind a first branch that an else closes. -/
def Instr.Regular : Instr → Prop
  | .block _ type body => type.Regular ∧ body.terminator = .close
  | .cond type thn els => type.Regular ∧ (thn.terminator = .close ∧ els = .unset ∨
      thn.terminator = .otherwise ∧ els.terminator = .close)
  | .localVar _ _ | .const _ | .numeric _ | .branch _ _ => True

structure FuncBody.Regular (limit : Nat) (fb : FuncBody) : Prop where
  locals : ∀ l ∈ fb.locals, l.type.isValid = true
  closed : fb.body.terminator = .close
  instrs : ∀ i depth, fb.body.Holds i depth → i.Regular
  depth : ∀ visit ∈ fb.body.walkAll, visit.1 ≤ limit

structure Module.Regular (limit : Nat) (m : Module) : Prop where
  magic : m.magic = .magic
  kinds : ∀ s ∈ m.sections, s.id = .types ∨ s.id = .functions ∨ s.id = .exports ∨ s.id = .code
  types : ∀ t ∈ m.types, ∀ v ∈ t.params ++ t.results, v.isValid = true
  names : ∀ e ∈ m.exports, e.name.toByteArray.IsValidUTF8
  bodies : ∀ fb ∈ m.bodies, fb.Regular limit

theorem BlockType.Written.regular {bs : List UInt8} {bt : BlockType} (h : Written bs bt) :
    bt.Regular := by
  cases h with
  | empty => exact .empty
  | value type => exact .value type.isValid
  | index _ _ _ natural => exact .typeIndex natural

theorem Instr.Plain.regular {bs : List UInt8} {i : Instr} (h : Plain bs i) :
    i.Regular ∧ i.nested = [] := by
  cases h <;> exact ⟨trivial, rfl⟩

/-- What is read with some room is regular at every depth, and no deeper than there is room. -/
theorem Instr.Code.regular {room : Nat} {bs : List UInt8} {is : List Instr} (h : Code room bs is)
    {t : Opcode} {i : Instr} {depth : Nat} (hi : (Expr.ofInstrs is t).Holds i depth) :
    i.Regular ∧ depth ≤ room := by
  induction h generalizing t depth with
  | nil => cases hi
  | plain head tail ih =>
    rcases Expr.holds_cons_iff.1 hi with ⟨rfl, rfl⟩ | ⟨e, he, -⟩ | hi
    · exact ⟨head.regular.1, Nat.zero_le _⟩
    · rw [head.regular.2] at he
      cases he
    · exact ih hi
  | block shape type body tail ihbody ih =>
    rcases Expr.holds_cons_iff.1 hi with ⟨rfl, rfl⟩ | ⟨e, he, k, hk, rfl⟩ | hi
    · exact ⟨⟨type.regular, Expr.terminator_ofInstrs _ _⟩, Nat.zero_le _⟩
    · obtain rfl := List.mem_singleton.1 he
      obtain ⟨hr, hle⟩ := ihbody hk
      exact ⟨hr, Nat.succ_le_succ hle⟩
    · exact ih hi
  | cond type thn tail ihthn ih =>
    rcases Expr.holds_cons_iff.1 hi with ⟨rfl, rfl⟩ | ⟨e, he, k, hk, rfl⟩ | hi
    · exact ⟨⟨type.regular, .inl ⟨Expr.terminator_ofInstrs _ _, rfl⟩⟩, Nat.zero_le _⟩
    · rcases List.mem_cons.1 he with rfl | he
      · obtain ⟨hr, hle⟩ := ihthn hk
        exact ⟨hr, Nat.succ_le_succ hle⟩
      · -- the branch that is not there holds nothing
        obtain rfl := List.mem_singleton.1 he
        cases hk
    · exact ih hi
  | condElse type thn els tail ihthn ihels ih =>
    rcases Expr.holds_cons_iff.1 hi with ⟨rfl, rfl⟩ | ⟨e, he, k, hk, rfl⟩ | hi
    · exact ⟨⟨type.regular, .inr ⟨Expr.terminator_ofInstrs _ _, Expr.terminator_ofInstrs _ _⟩⟩,
        Nat.zero_le _⟩
    · rcases List.mem_cons.1 he with rfl | he
      · obtain ⟨hr, hle⟩ := ihthn hk
        exact ⟨hr, Nat.succ_le_succ hle⟩
      · obtain rfl := List.mem_singleton.1 he
        obtain ⟨hr, hle⟩ := ihels hk
        exact ⟨hr, Nat.succ_le_succ hle⟩
    · exact ih hi

theorem Expr.Written.regular {room : Nat} {t : Opcode} {bs : List UInt8} {e : Expr}
    (h : Written room t bs e) {i : Instr} {depth : Nat} (hi : e.Holds i depth) :
    i.Regular ∧ depth ≤ room := by
  obtain ⟨code⟩ := h
  exact code.regular hi

theorem FuncType.Written.isValid {bs : List UInt8} {t : FuncType} (h : Written bs t) :
    ∀ v ∈ t.params ++ t.results, v.isValid = true := by
  obtain ⟨params, results⟩ := h
  intro v hv
  rcases List.mem_append.1 hv with hv | hv
  · exact params.forall ValType.Written.isValid v hv
  · exact results.forall ValType.Written.isValid v hv

theorem Export.Written.name_part {bs : List UInt8} {e : Export} (h : Written bs e) :
    e.name.toByteArray.data.toList <:+: bs := by
  obtain ⟨name, _⟩ := h
  generalize e.name = s at name
  obtain ⟨_, _⟩ := name
  exact ⟨_, _, rfl⟩

theorem FuncBody.Written.regular {options : DecodeOptions} {bs : List UInt8} {fb : FuncBody}
    (h : Written options bs fb) : fb.Regular options.maxNesting := by
  obtain ⟨_, _, locals, code, _⟩ := h
  refine ⟨locals.forall LocalEntry.Written.isValid, code.terminator_eq, ?_, ?_⟩
  · intro i depth hi
    exact (code.regular hi).1
  · intro visit hvisit
    exact (code.regular (Expr.mem_walkAll_iff.1 hvisit)).2

namespace Module

variable {options : DecodeOptions} {data : List UInt8} {m : Module}

/-- What decoding gives is regular up to the nesting limit, and the names of its exports stand in
the data as they are. -/
theorem regular_of_decode (h : decode options data = .ok m) :
    m.Regular options.maxNesting ∧
      ∀ e ∈ m.exports, e.name.toByteArray.data.toList <:+: data := by
  have hw := decode_eq_ok_iff.1 h
  refine ⟨⟨?_, ?_, ?_, ?_, ?_⟩, ?_⟩
  · obtain ⟨version, sections⟩ := hw
    rfl
  · intro s _
    cases s <;> simp [Section.id]
  · intro t ht
    obtain ⟨_, -, type⟩ := hw.type_part ht
    exact type.isValid
  · intro e _
    exact e.name.isValidUTF8
  · intro fb hfb
    obtain ⟨_, -, body⟩ := hw.body_part hfb
    exact body.regular
  · intro e he
    obtain ⟨_, hpart, export'⟩ := hw.export_part he
    exact export'.name_part.trans hpart

/-- All parts of the format, with an instruction as deep as the limit allows. -/
theorem regular_of_decode_deepest :
    let data : List UInt8 := [0x00, 0x61, 0x73, 0x6D, 1, 0, 0, 0,
      0x01, 0x05, 0x01, 0x60, 0x00, 0x01, 0x7E, 0x03, 0x02, 0x01, 0x00,
      0x07, 0x06, 0x01, 0x02, 0xC3, 0xA9, 0x00, 0x00,
      0x0A, 0x16, 0x01, 0x14, 0x01, 0x01, 0x7F, 0x02, 0x40, 0x41, 0x00, 0x04, 0x7F, 0x0C, 0x00,
      0x05, 0x03, 0x00, 0x41, 0x05, 0x0B, 0x0B, 0x0B, 0x0B]
    let inner : Expr := .ofInstrs [.block .loop (.ofIndex 0) (.ofInstrs [.const 5] .close)] .close
    let cond : Instr := .cond (.ofValue ⟨0x7F⟩) (.ofInstrs [.branch .always 0] .otherwise) inner
    let body : Expr := .ofInstrs [.block .block .empty (.ofInstrs [.const 0, cond] .close)] .close
    let m : Module := ⟨.magic, .version1, [.types [⟨[], [⟨0x7E⟩]⟩], .functions [0],
      .exports [⟨"é", .func, 0⟩], .code [⟨20, [⟨1, ⟨0x7F⟩⟩], body⟩]]⟩
    decode ⟨true, 3⟩ data = .ok m ∧ (3, Instr.const 5) ∈ body.walkAll ∧ m.Regular 3 := by
  intro data inner cond body m
  have h : decode ⟨true, 3⟩ data = .ok m := by decide +kernel
  exact ⟨h, by decide +kernel, (regular_of_decode h).1⟩

end Module

end WasmScope

import WasmScope.Proofs.Encode.Normal

namespace WasmScope

def FuncBody.resized (fb : FuncBody) : FuncBody :=
  { fb with size := UInt32.ofNat fb.encodeContent.length }

def Section.resized (s : Section) : Section := s.mapBodies FuncBody.resized

/-- The module with the sizes it has as written, and with version 1 where none is set. -/
def Module.resized (m : Module) : Module :=
  { m with version := m.encodedVersion, sections := m.sections.map Section.resized }

namespace Format

variable {α : Type} {F : Format α} {bs : List UInt8} {xs : List α} {element : α → List UInt8}

theorem Many.length_flatMap_le (h : F.Many bs xs)
    (hle : ∀ {bs x}, F bs x → (element x).length ≤ bs.length) :
    (xs.flatMap element).length ≤ bs.length := by
  induction h with
  | nil => exact Nat.le_refl 0
  | cons head tail ih =>
    rw [List.flatMap_cons, List.length_append, List.length_append]
    exact Nat.add_le_add (hle head) ih

theorem Counted.length_vector_le (h : F.Counted bs xs)
    (hle : ∀ {bs x}, F bs x → (element x).length ≤ bs.length) :
    (Output.vector element xs).length ≤ bs.length := by
  obtain ⟨count, length, items⟩ := h
  rw [Output.vector, Output.length, ← length, UInt32.ofNat_toNat, List.length_append,
    List.length_append]
  exact Nat.add_le_add (count.length_le (UInt32.le_refl _)) (items.length_flatMap_le hle)

end Format

theorem Leb128.Unsigned.length_sized_le {front data : List UInt8} {n : UInt32}
    (h : Unsigned front n) (hle : data.length ≤ n.toNat) :
    (Output.sized data).length ≤ front.length + n.toNat := by
  have hsize : UInt32.ofNat data.length ≤ n := by
    rw [UInt32.le_iff_toNat_le, UInt32.toNat_ofNat_of_lt' (hle.trans_lt n.toNat_lt)]
    exact hle
  rw [Output.sized, List.length_append]
  exact Nat.add_le_add (h.length_le hsize) hle

namespace BlockType.Written

variable {bs : List UInt8} {bt : BlockType}

theorem length_le (h : Written bs bt) : bt.encode.length ≤ bs.length := by
  cases h with
  | empty => exact Nat.le_refl 1
  | value type =>
    obtain ⟨rfl, -⟩ := ValType.written_iff.1 type
    exact Nat.le_refl 1
  | index index _ _ _ => exact index.length_le

theorem norm_eq (h : Written bs bt) : bt.norm = bt := by
  cases h <;> rfl

theorem encodable (h : Written bs bt) : bt.Encodable := by
  cases h with
  | empty => exact ⟨nofun, nofun⟩
  | value type => exact ⟨fun _ => type.isValid, nofun⟩
  | index _ _ _ natural => exact ⟨nofun, fun _ => natural⟩

end BlockType.Written

@[simp] theorem hasElseBranch_close_unset (is : List Instr) :
    hasElseBranch (.ofInstrs is .close) .unset = false := by
  rw [hasElseBranch, Expr.terminator_ofInstrs]
  rfl

@[simp] theorem hasElseBranch_otherwise (is : List Instr) (els : Expr) :
    hasElseBranch (.ofInstrs is .otherwise) els = true := by
  rw [hasElseBranch, Expr.terminator_ofInstrs]
  rfl

namespace Instr

theorem Plain.length_le {bs : List UInt8} {i : Instr} (h : Plain bs i) :
    i.encode.length ≤ bs.length := by
  cases h with
  | localVar access index => exact Nat.succ_le_succ (index.length_le (UInt32.le_refl _))
  | const value => exact Nat.succ_le_succ value.length_le
  | numeric op => exact Nat.le_refl 1
  | branch mode label => exact Nat.succ_le_succ (label.length_le (UInt32.le_refl _))

theorem Plain.norm_eq {bs : List UInt8} {i : Instr} (h : Plain bs i) : i.norm = i := by
  cases h <;> simp only [Instr.norm]

theorem Plain.encodable {bs : List UInt8} {i : Instr} (h : Plain bs i) : i.Encodable := by
  cases h <;> simp only [Instr.Encodable]

theorem Plain.nesting_eq {bs : List UInt8} {i : Instr} (h : Plain bs i) : i.nesting = 0 := by
  cases h <;> simp only [Instr.nesting]

namespace Code

variable {room : Nat} {bs : List UInt8} {is : List Instr}

theorem length_le (h : Code room bs is) (t : Opcode) :
    (Expr.ofInstrs is t).encodeInstrs.length ≤ bs.length := by
  induction h generalizing t with
  | nil => exact Nat.le_refl 0
  | plain head tail ih =>
    have hhead := head.length_le
    have htail := ih t
    rw [Expr.ofInstrs_cons, Expr.encodeInstrs, List.length_append, List.length_append]
    omega
  | block shape type body tail ihbody ih =>
    have htype := type.length_le
    have hbody := ihbody .close
    have htail := ih t
    simp [Expr.encodeInstrs, Instr.encode]
    omega
  | cond type thn tail ihthn ih =>
    have htype := type.length_le
    have hthn := ihthn .close
    have htail := ih t
    simp [Expr.encodeInstrs, Instr.encode]
    omega
  | condElse type thn els tail ihthn ihels ih =>
    have htype := type.length_le
    have hthn := ihthn .otherwise
    have hels := ihels .close
    have htail := ih t
    simp [Expr.encodeInstrs, Instr.encode]
    omega

theorem norm_eq (h : Code room bs is) : is.map Instr.norm = is := by
  induction h with
  | nil => rfl
  | plain head tail ih => rw [List.map_cons, head.norm_eq, ih]
  | block shape type body tail ihbody ih =>
    rw [List.map_cons, ih, Instr.norm, type.norm_eq, Expr.norm_eq, Expr.instrs_ofInstrs, ihbody]
  | cond type thn tail ihthn ih =>
    simp [Instr.norm, ih, type.norm_eq, Expr.norm_eq, ihthn]
  | condElse type thn els tail ihthn ihels ih =>
    simp [Instr.norm, ih, type.norm_eq, Expr.norm_eq, ihthn, ihels]

theorem encodable (h : Code room bs is) (t : Opcode) : (Expr.ofInstrs is t).Encodable := by
  induction h generalizing t with
  | nil => exact trivial
  | plain head tail ih => exact ⟨head.encodable, ih t⟩
  | block shape type body tail ihbody ih => exact ⟨⟨type.encodable, ihbody _⟩, ih t⟩
  | cond type thn tail ihthn ih => exact ⟨⟨type.encodable, ihthn _, trivial⟩, ih t⟩
  | condElse type thn els tail ihthn ihels ih =>
    exact ⟨⟨type.encodable, ihthn _, ihels _⟩, ih t⟩

theorem nesting_le (h : Code room bs is) (t : Opcode) : (Expr.ofInstrs is t).nesting ≤ room := by
  induction h generalizing t with
  | nil => exact Nat.zero_le _
  | plain head tail ih =>
    rw [Expr.ofInstrs_cons, Expr.nesting, head.nesting_eq, Nat.zero_max]
    exact ih t
  | block shape type body tail ihbody ih =>
    exact Nat.max_le.2 ⟨Nat.succ_le_succ (ihbody _), ih t⟩
  | cond type thn tail ihthn ih =>
    exact Nat.max_le.2 ⟨Nat.succ_le_succ (Nat.max_le.2 ⟨ihthn _, Nat.zero_le _⟩), ih t⟩
  | condElse type thn els tail ihthn ihels ih =>
    exact Nat.max_le.2 ⟨Nat.succ_le_succ (Nat.max_le.2 ⟨ihthn _, ihels _⟩), ih t⟩

end Code

end Instr

namespace Expr.Written

variable {room : Nat} {t : Opcode} {bs : List UInt8} {e : Expr}

theorem length_le (h : Written room t bs e) : e.encode.length ≤ bs.length := by
  obtain ⟨code⟩ := h
  have hcode := code.length_le t
  simp only [Expr.encode, List.length_append, List.length_singleton]
  omega

theorem norm_eq (h : Written room t bs e) : e.norm t = e := by
  obtain ⟨code⟩ := h
  rw [Expr.norm_eq, instrs_ofInstrs, code.norm_eq]

theorem encodable (h : Written room t bs e) : e.Encodable := by
  obtain ⟨code⟩ := h
  exact code.encodable t

theorem nesting_le (h : Written room t bs e) : e.nesting ≤ room := by
  obtain ⟨code⟩ := h
  exact code.nesting_le t

end Expr.Written

theorem LocalEntry.Written.length_le {bs : List UInt8} {l : LocalEntry} (h : Written bs l) :
    l.encode.length ≤ bs.length := by
  obtain ⟨count, type⟩ := h
  obtain ⟨rfl, -⟩ := ValType.written_iff.1 type
  have hcount := count.length_le (UInt32.le_refl _)
  simpa [LocalEntry.encode] using hcount

theorem ValType.Written.length_le {bs : List UInt8} {t : ValType} (h : Written bs t) :
    [t.tag].length ≤ bs.length := by
  obtain ⟨rfl, -⟩ := written_iff.1 h
  exact Nat.le_refl 1

theorem FuncType.Written.length_le {bs : List UInt8} {t : FuncType} (h : Written bs t) :
    t.encode.length ≤ bs.length := by
  obtain ⟨params, results⟩ := h
  have hparams := params.length_vector_le ValType.Written.length_le
  have hresults := results.length_vector_le ValType.Written.length_le
  simp only [FuncType.encode, ValType.encodeAll, List.cons_append, List.length_cons,
    List.length_append]
  omega

theorem FuncType.Written.encodable {bs : List UInt8} {t : FuncType} (h : Written bs t) :
    t.Encodable := by
  obtain ⟨params, results⟩ := h
  exact ⟨params.forall ValType.Written.isValid, results.forall ValType.Written.isValid⟩

theorem Export.Written.length_le {bs : List UInt8} {e : Export} (h : Written bs e) :
    e.encode.length ≤ bs.length := by
  obtain ⟨⟨size, extent⟩, index⟩ := h
  have hname := size.length_sized_le (Nat.le_of_eq extent.symm)
  have hindex := index.length_le (UInt32.le_refl _)
  simp only [Export.encode, Output.name, List.length_append, List.length_cons]
  omega

namespace FuncBody.Written

variable {options : DecodeOptions} {bs : List UInt8} {fb : FuncBody}

/-- What counts of a body never takes more than the size that was declared for it. -/
theorem encodeContent_le (h : Written options bs fb) :
    fb.encodeContent.length ≤ fb.size.toNat := by
  obtain ⟨size, extent, locals, code, tight⟩ := h
  have hlocals := locals.length_vector_le LocalEntry.Written.length_le
  have hcode := code.length_le
  rw [encodeContent, extent]
  simp only [List.length_append]
  omega

theorem length_le (h : Written options bs fb) : fb.encode.length ≤ bs.length := by
  have hcontent := h.encodeContent_le
  obtain ⟨size, extent, locals, code, tight⟩ := h
  have hsized := size.length_sized_le hcontent
  rw [extent, ← List.length_append] at hsized
  exact hsized

theorem encodable (h : Written options bs fb) : fb.Encodable options.maxNesting := by
  obtain ⟨size, extent, locals, code, tight⟩ := h
  refine ⟨locals.forall LocalEntry.Written.isValid, code.encodable, ?_, code.nesting_le⟩
  rw [code.terminator_eq]
  decide

theorem norm_eq (h : Written options bs fb) : fb.norm = fb.resized := by
  obtain ⟨size, extent, locals, code, tight⟩ := h
  rw [norm, resized, code.norm_eq]

end FuncBody.Written

namespace Section

variable {options : DecodeOptions} {bs : List UInt8} {s : Section}

theorem Content.length_le (h : Content options bs s) : s.encodeContent.length ≤ bs.length := by
  cases h with
  | types entries => exact entries.length_vector_le FuncType.Written.length_le
  | functions entries =>
    exact entries.length_vector_le fun index => index.length_le (UInt32.le_refl _)
  | exports entries => exact entries.length_vector_le Export.Written.length_le
  | code entries => exact entries.length_vector_le FuncBody.Written.length_le

theorem Content.encodable (h : Content options bs s) : s.Encodable options.maxNesting := by
  cases h with
  | types entries => exact entries.forall FuncType.Written.encodable
  | functions entries => exact trivial
  | exports entries => exact trivial
  | code entries => exact entries.forall FuncBody.Written.encodable

theorem Content.norm_eq (h : Content options bs s) : s.norm = s.resized := by
  cases h with
  | types entries => rfl
  | functions entries => rfl
  | exports entries => rfl
  | code entries =>
    have hbodies := List.map_congr_left (entries.forall FuncBody.Written.norm_eq)
    exact congrArg Section.code hbodies

theorem Content.bodies_le (h : Content options bs s) :
    ∀ fb ∈ s.bodyEntries, fb.encodeContent.length ≤ fb.size.toNat := by
  cases h with
  | types entries => exact nofun
  | functions entries => exact nofun
  | exports entries => exact nofun
  | code entries => exact entries.forall FuncBody.Written.encodeContent_le

theorem Written.length_le (h : Written options bs s) : s.encode.length ≤ bs.length := by
  obtain ⟨size, extent, content⟩ := h
  have hcontent := content.length_le
  rw [List.length_append] at extent
  have hsized := size.length_sized_le (hcontent.trans (by omega))
  rw [encode, List.length_cons, List.length_cons, List.length_append, List.length_append]
  omega

theorem Written.fits (h : Written options bs s) : s.encodeContent.length < UInt32.size := by
  obtain ⟨size, extent, content⟩ := h
  rw [List.length_append] at extent
  calc s.encodeContent.length
      ≤ _ := content.length_le
    _ ≤ _ := Nat.le_add_right _ _
    _ = _ := extent.symm
    _ < UInt32.size := UInt32.toNat_lt_size _

theorem Written.content (h : Written options bs s) : ∃ inner, Content options inner s := by
  obtain ⟨_, _, content⟩ := h
  exact ⟨_, content⟩

theorem encode_resized (s : Section) : s.resized.encode = s.encode := by
  cases s with
  | types entries => rfl
  | functions entries => rfl
  | exports entries => rfl
  | code entries =>
    have hbodies : (entries.map FuncBody.resized).flatMap FuncBody.encode =
        entries.flatMap FuncBody.encode := by
      rw [List.flatMap_map]
      rfl
    simp only [resized, mapBodies, encode, encodeContent, Output.vector, List.length_map, hbodies]
    rfl

end Section

namespace Module

variable {options : DecodeOptions} {data : List UInt8} {m : Module}

theorem encodedVersion_ne_zero (m : Module) : m.encodedVersion ≠ .zero := by
  unfold encodedVersion
  split
  · decide
  · assumption

theorem encode_resized (m : Module) : m.resized.encode = m.encode := by
  have hversion : m.resized.encodedVersion = m.encodedVersion := if_neg m.encodedVersion_ne_zero
  have hsections : m.resized.sections.flatMap Section.encode =
      m.sections.flatMap Section.encode := by
    simp only [resized, List.flatMap_map, Section.encode_resized]
  rw [encode, hversion, hsections]
  rfl

theorem Written.length_le (h : Written options data m) : m.encode.length ≤ data.length := by
  obtain ⟨version, sections⟩ := h
  have hsections := sections.length_flatMap_le Section.Written.length_le
  simp only [encode, FourBytes.toList, List.length_append, List.length_cons, List.length_nil]
  omega

theorem Written.encodable (h : Written options data m) : m.Encodable options.maxNesting := by
  obtain ⟨version, sections⟩ := h
  refine ⟨.inr rfl, sections.forall fun h => ?_, sections.forall Section.Written.fits⟩
  obtain ⟨_, content⟩ := h.content
  exact content.encodable

theorem Written.norm_eq (h : Written options data m) : m.norm = m.resized := by
  obtain ⟨version, sections⟩ := h
  have hsections := sections.forall fun h => h.content.elim fun _ => Section.Content.norm_eq
  simp only [norm, resized, List.map_congr_left hsections]
  rfl

theorem Written.bodies_le (h : Written options data m) :
    ∀ fb ∈ m.bodies, fb.encodeContent.length ≤ fb.size.toNat ∧
      fb.resized.size.toNat = fb.encodeContent.length := by
  obtain ⟨version, sections⟩ := h
  intro fb hfb
  obtain ⟨s, hs, hfb⟩ := List.mem_flatMap.1 hfb
  have hle := sections.forall (fun h => h.content.elim fun _ => Section.Content.bodies_le) s hs fb hfb
  exact ⟨hle, UInt32.toNat_ofNat_of_lt' (hle.trans_lt (UInt32.toNat_lt_size _))⟩

/-- A module that has been read is written in no more bytes than it was read from, bodies included.
It is then read as itself up to sizes and an unset version, also strictly, and writing it once more
changes nothing. -/
theorem encode_of_decode (h : decode options data = .ok m) :
    m.encode.length ≤ data.length ∧
      (∀ fb ∈ m.bodies, fb.encodeContent.length ≤ fb.size.toNat ∧
        fb.resized.size.toNat = fb.encodeContent.length) ∧
      decode options m.encode = .ok m.resized ∧
      decode { options with strict := true } m.encode = .ok m.resized ∧
      m.resized.encode = m.encode := by
  have hw := decode_eq_ok_iff.1 h
  have hread {o : DecodeOptions} (ho : o.maxNesting = options.maxNesting) :
      decode o m.encode = .ok m.resized := by
    have he : m.Encodable o.maxNesting := ho ▸ hw.encodable
    rw [← hw.norm_eq]
    exact decode_eq_ok_iff.2 he.written
  exact ⟨hw.length_le, hw.bodies_le, hread rfl, hread rfl, m.encode_resized⟩

/-- Overlong integers, bytes that do not count and an unset version, in one body. -/
theorem encode_of_decode_loose :
    let data : List UInt8 := [0x00, 0x61, 0x73, 0x6D, 0, 0, 0, 0,
      0x0A, 0x88, 0x00, 0x81, 0x00, 0x04, 0x00, 0x0B, 0xFF, 0xFF, 0xAA]
    let m : Module := ⟨.magic, .zero, [.code [⟨4, [], .close .close⟩]]⟩
    decode ⟨false, 1⟩ data = .ok m ∧ m.encode.length ≤ data.length ∧
      decode ⟨true, 1⟩ m.encode = .ok ⟨.magic, .version1, [.code [⟨2, [], .close .close⟩]]⟩ := by
  intro data m
  have h : decode ⟨false, 1⟩ data = .ok m := by decide +kernel
  obtain ⟨hlength, -, -, hstrict, -⟩ := encode_of_decode h
  exact ⟨h, hlength, hstrict⟩

end Module

end WasmScope

import WasmScope.Module.Walk
import WasmScope.Proofs.Grammar.Module

namespace WasmScope

def total {α : Type} (number : α → Nat) (xs : List α) : Nat :=
  xs.foldr (fun x n => number x + n) 0

section

variable {α : Type} (number : α → Nat)

@[simp] theorem total_nil : total number [] = 0 := rfl

@[simp] theorem total_cons (x : α) (xs : List α) :
    total number (x :: xs) = number x + total number xs := rfl

@[simp] theorem total_append (xs ys : List α) :
    total number (xs ++ ys) = total number xs + total number ys := by
  induction xs with
  | nil => exact (Nat.zero_add _).symm
  | cons x xs ih => rw [List.cons_append, total_cons, total_cons, ih, Nat.add_assoc]

@[simp] theorem total_one (xs : List α) : total (fun _ => 1) xs = xs.length := by
  induction xs with
  | nil => rfl
  | cons x xs ih => rw [total_cons, ih, List.length_cons, Nat.add_comm]

end

def FuncType.items (t : FuncType) : Nat := 1 + t.params.length + t.results.length

def Export.items (e : Export) : Nat := 1 + e.name.utf8ByteSize

def FuncBody.items (fb : FuncBody) : Nat := 1 + fb.locals.length + fb.body.walkAll.length

def Section.items (s : Section) : Nat :=
  1 + total FuncType.items s.typeEntries + s.functionEntries.length
    + total Export.items s.exportEntries + total FuncBody.items s.bodyEntries

/-- What a module consists of: sections, signatures with their types, type indices, exports with
their names, and bodies with their local entries and instructions. -/
def Module.items (m : Module) : Nat :=
  m.sections.length + total FuncType.items m.types + m.functions.length
    + total Export.items m.exports + total FuncBody.items m.bodies

theorem Module.items_eq (m : Module) : m.items = total Section.items m.sections := by
  obtain ⟨magic, version, sections⟩ := m
  simp only [items, types, functions, exports, bodies]
  induction sections with
  | nil => rfl
  | cons s sections ih =>
    simp only [List.length_cons, List.flatMap_cons, total_append, List.length_append, total_cons,
      Section.items] at ih ⊢
    omega

namespace Format

variable {α : Type} {F : Format α} {number : α → Nat}

/-- No value has more of something than the strings that stand for it have bytes. -/
def Pays (F : Format α) (number : α → Nat) : Prop := ∀ bs x, F bs x → number x ≤ bs.length

theorem Pays.many (h : F.Pays number) : F.Many.Pays (total number) := by
  intro bs xs hm
  induction hm with
  | nil => exact Nat.zero_le _
  | cons head tail ih =>
    rw [total_cons, List.length_append]
    exact Nat.add_le_add (h _ _ head) ih

theorem Pays.counted (h : F.Pays number) : F.Counted.Pays fun xs => 1 + total number xs := by
  intro bs xs hc
  obtain ⟨count, _, items⟩ := hc
  rw [List.length_append]
  exact Nat.add_le_add count.1.length_pos (h.many _ _ items)

end Format

theorem Leb128.pays_unsigned : Format.Pays Unsigned fun _ => 1 := fun _ _ h => h.1.length_pos

theorem ValType.pays_written : Format.Pays Written fun _ => 1 := by
  intro bs t h
  obtain ⟨rfl, -⟩ := written_iff.1 h
  exact Nat.le_refl 1

theorem FuncType.pays_written : Format.Pays Written items := by
  intro bs t h
  obtain ⟨params, results⟩ := h
  have hparams := ValType.pays_written.counted _ _ params
  have hresults := ValType.pays_written.counted _ _ results
  simp only [total_one] at hparams hresults
  rw [items, List.length_cons, List.length_append]
  omega

theorem Export.pays_written : Format.Pays Written items := by
  intro bs e h
  obtain ⟨⟨size, _⟩, index⟩ := h
  have hsize := size.1.length_pos
  have hindex := index.1.length_pos
  have hname : e.name.toByteArray.data.toList.length = e.name.utf8ByteSize := by simp
  simp only [items, List.length_append, List.length_cons, hname]
  omega

theorem LocalEntry.pays_written : Format.Pays Written fun _ => 1 := by
  intro bs l h
  obtain ⟨count, _⟩ := h
  rw [List.length_append]
  exact Nat.le_add_right_of_le count.1.length_pos

theorem Instr.Plain.visits_le {bs : List UInt8} {i : Instr} (h : Plain bs i) (depth : Nat) :
    (i.visits (fun _ => true) depth).length ≤ bs.length := by
  cases h <;> simp [visits]

/-- Each instruction begins with a byte of its own, at every depth. -/
theorem Instr.Code.visits_le {room : Nat} {bs : List UInt8} {is : List Instr}
    (h : Code room bs is) (t : Opcode) (depth : Nat) :
    ((Expr.ofInstrs is t).visits (fun _ => true) depth).length ≤ bs.length := by
  induction h generalizing t depth with
  | nil => exact Nat.zero_le _
  | plain head tail ih =>
    have hhead := head.visits_le depth
    have htail := ih t depth
    rw [Expr.ofInstrs_cons, Expr.visits, List.length_append, List.length_append]
    exact Nat.add_le_add hhead htail
  | block shape type body tail ihbody ih =>
    have hbody := ihbody .close (depth + 1)
    have htail := ih t depth
    simp [Expr.visits, Instr.visits]
    omega
  | cond type thn tail ihthn ih =>
    have hthn := ihthn .close (depth + 1)
    have htail := ih t depth
    simp [Expr.visits, Instr.visits, Expr.unset]
    omega
  | condElse type thn els tail ihthn ihels ih =>
    have hthn := ihthn .otherwise (depth + 1)
    have hels := ihels .close (depth + 1)
    have htail := ih t depth
    simp [Expr.visits, Instr.visits]
    omega

theorem Expr.pays_written (room : Nat) (t : Opcode) :
    Format.Pays (Written room t) fun e => e.walkAll.length + 1 := by
  intro bs e h
  obtain ⟨code⟩ := h
  rw [List.length_append]
  exact Nat.succ_le_succ (code.visits_le t 0)

section

variable (options : DecodeOptions)

theorem FuncBody.pays_written : Format.Pays (Written options) items := by
  intro bs fb h
  obtain ⟨size, _, locals, code, _⟩ := h
  have hsize := size.1.length_pos
  have hlocals := LocalEntry.pays_written.counted _ _ locals
  have hcode := Expr.pays_written _ _ _ _ code
  simp only [total_one] at hlocals hcode
  simp only [items, List.length_append]
  omega

theorem Section.pays_content : Format.Pays (Content options) items := by
  intro bs s h
  cases h with
  | types entries => simpa [items, typeEntries, functionEntries, exportEntries, bodyEntries]
      using FuncType.pays_written.counted _ _ entries
  | functions entries => simpa [items, typeEntries, functionEntries, exportEntries, bodyEntries]
      using Leb128.pays_unsigned.counted _ _ entries
  | exports entries => simpa [items, typeEntries, functionEntries, exportEntries, bodyEntries]
      using Export.pays_written.counted _ _ entries
  | code entries => simpa [items, typeEntries, functionEntries, exportEntries, bodyEntries]
      using (FuncBody.pays_written options).counted _ _ entries

theorem Section.pays_written : Format.Pays (Written options) items := by
  intro bs s h
  obtain ⟨_, _, content⟩ := h
  have hcontent := pays_content options _ _ content
  simp only [List.length_cons, List.length_append]
  omega

theorem Module.pays_written : Format.Pays (Written options) fun m => 8 + m.items := by
  intro data m h
  obtain ⟨version, sections⟩ := h
  have hsections := (Section.pays_written options).many _ _ sections
  simp only [items_eq, FourBytes.toList, List.length_append, List.length_cons, List.length_nil]
  omega

end

namespace Reader

variable {α : Type}

theorem Reads.advances {r : Reader α} {F : Format α} {number : α → Nat} {least : Nat}
    (h : Reads r F) (hF : F.Pays number) (hleast : ∀ x, least ≤ number x) : Advances least r := by
  intro c x rest hr
  obtain ⟨bs, hw, hs⟩ := (h c x rest).1 hr
  refine ⟨bs.length, (hleast x).trans (hF bs x hw), ?_, ?_⟩
  · simp [hs.unread]
  · exact hs.unique ⟨by simp [hs.unread], rfl⟩

theorem repeated_eq_ok {step : Nat → Reader α} (h : ∀ i, Advances 1 (step i)) {n i : Nat}
    {done xs : List α} {c rest : Cursor} (hr : repeated step n i done c = .ok (xs, rest)) :
    xs.length = done.length + n ∧ ∃ k, n ≤ k ∧ k ≤ c.unread.length ∧ rest = c.advance k := by
  induction n generalizing i done c with
  | zero =>
    cases hr
    exact ⟨List.length_reverse, 0, Nat.le_refl 0, Nat.zero_le _, rfl⟩
  | succ n ih =>
    obtain ⟨x, mid, hx, hr⟩ := bind_eq_ok.1 hr
    obtain ⟨j, hj, hjlen, rfl⟩ := h i c x mid hx
    obtain ⟨hlength, k, hk, hklen, rfl⟩ := ih hr
    rw [List.length_cons] at hlength
    rw [Cursor.unread_advance, List.length_drop] at hklen
    exact ⟨by omega, j + k, by omega, by omega, Cursor.advance_advance c j k⟩

theorem vector_eq_ok {element : Reader α} (h : Advances 1 element) {c rest : Cursor} {xs : List α}
    (hr : vector element c = .ok (xs, rest)) :
    ∃ k, xs.length < k ∧ k ≤ c.unread.length ∧ rest = c.advance k := by
  obtain ⟨n, mid, hn, hr⟩ := bind_eq_ok.1 hr
  obtain ⟨j, hj, hjlen, rfl⟩ := advances_u32 c n mid hn
  obtain ⟨hlength, k, hk, hklen, rfl⟩ := repeated_eq_ok (fun _ => h) hr
  rw [List.length_nil] at hlength
  rw [Cursor.unread_advance, List.length_drop] at hklen
  exact ⟨j + k, by omega, by omega, Cursor.advance_advance c j k⟩

end Reader

/-- The readers of what the vectors of a module hold. -/
inductive Decode.Element (options : DecodeOptions) : {α : Type} → Reader α → Prop
  | valType : Element options Reader.valType
  | funcType : Element options Reader.funcType
  | index : Element options Reader.u32
  | exportEntry : Element options Reader.exportEntry
  | localEntry : Element options Reader.localEntry
  | body : Element options (Decode.body options)

theorem Decode.advances_body (options : DecodeOptions) : Reader.Advances 1 (body options) := by
  intro c read rest hr
  obtain ⟨size, mid, region, rest', hsize, hregion, -⟩ := body_eq_ok_iff.1 hr
  obtain ⟨j, hj, hjlen, rfl⟩ := Reader.advances_u32 c size mid hsize
  obtain ⟨k, hk, hklen, rfl⟩ := Reader.advances_region _ _ _ _ hregion
  rw [Cursor.unread_advance, List.length_drop] at hklen
  exact ⟨j + k, by omega, by omega, Cursor.advance_advance c j k⟩

theorem Decode.Element.advances {options : DecodeOptions} {α : Type} {element : Reader α}
    (h : Element options element) : Reader.Advances 1 element := by
  cases h with
  | valType => exact Reader.reads_valType.advances ValType.pays_written fun _ => Nat.le_refl 1
  | funcType =>
    apply Reader.reads_funcType.advances FuncType.pays_written
    intro t
    rw [FuncType.items, Nat.add_assoc]
    exact Nat.le_add_right 1 _
  | index => exact Reader.advances_u32
  | exportEntry =>
    apply Reader.reads_exportEntry.advances Export.pays_written
    intro e
    exact Nat.le_add_right 1 _
  | localEntry =>
    exact Reader.reads_localEntry.advances LocalEntry.pays_written fun _ => Nat.le_refl 1
  | body => exact advances_body options

/-- A decoded module has no more items than the input has bytes behind the header. Whatever number
of elements a vector declares, reading it takes a byte for each element and one for their number,
provided that an element takes at least one, as those of a module do. -/
theorem Module.items_le_of_decode (options : DecodeOptions) :
    (∀ data m, decode options data = .ok m → 8 + m.items ≤ data.length) ∧
      (∀ {α : Type} {element : Reader α}, Reader.Advances 1 element → ∀ c xs rest,
        Reader.vector element c = .ok (xs, rest) →
          ∃ k, xs.length < k ∧ k ≤ c.unread.length ∧ rest = c.advance k) ∧
      ∀ {α : Type} {element : Reader α}, Decode.Element options element →
        Reader.Advances 1 element := by
  refine ⟨fun data m h => ?_, fun h _ _ _ => Reader.vector_eq_ok h, Decode.Element.advances⟩
  exact pays_written options data m (decode_eq_ok_iff.1 h)

/-- A module with an entry of every kind and a loop in a block, and the vector of its one signature.
-/
theorem Module.items_le_of_decode_loop :
    let options : DecodeOptions := {}
    let data : List UInt8 := [0x00, 0x61, 0x73, 0x6D, 1, 0, 0, 0,
      0x01, 0x05, 0x01, 0x60, 0x01, 0x7F, 0x00, 0x03, 0x02, 0x01, 0x00,
      0x07, 0x05, 0x01, 0x01, 0x66, 0x00, 0x00, 0x0A, 0x0C, 0x01, 0x0A, 0x01, 0x01, 0x7F,
      0x02, 0x40, 0x03, 0x40, 0x0B, 0x0B, 0x0B]
    let loop : Instr := .block .loop .empty (.close .close)
    let m : Module := ⟨.magic, .version1, [.types [⟨[.i32], []⟩], .functions [0],
      .exports [⟨"f", .func, 0⟩], .code [⟨10, [⟨1, .i32⟩],
        .cons (.block .block .empty (.cons loop (.close .close))) (.close .close)⟩]]⟩
    let c : Cursor := ⟨10, [0x01, 0x60, 0x01, 0x7F, 0x00]⟩
    decode options data = .ok m ∧ m.items = 13 ∧ 8 + m.items ≤ data.length ∧
      Decode.Element options Reader.funcType ∧
      Reader.vector Reader.funcType c = .ok ([⟨[.i32], []⟩], c.advance 5) ∧
      ∃ k, 1 < k ∧ k ≤ 5 ∧ c.advance 5 = c.advance k := by
  intro options data loop m c
  obtain ⟨hitems, hvector, helement⟩ := items_le_of_decode options
  have h : decode options data = .ok m := by decide +kernel
  have hread : Reader.vector Reader.funcType c = .ok ([⟨[.i32], []⟩], c.advance 5) := by
    decide +kernel
  exact ⟨h, by decide +kernel, hitems data m h, .funcType, hread,
    hvector (helement .funcType) c _ _ hread⟩

end WasmScope

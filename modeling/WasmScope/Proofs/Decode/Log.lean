import WasmScope.Proofs.Decode.Notes
import WasmScope.Proofs.Listing.Signature

namespace WasmScope

namespace Event

def types : Event → List ValType
  | exportVerified _ _ type => type.params ++ type.results
  | _ => []

/-- The message and the fields of an entry tell it from every other, where the types it names have
names of their own. -/
theorem eq_of_shown {e e' : Event} (h : ∀ t ∈ e.types, t.isValid = true)
    (h' : ∀ t ∈ e'.types, t.isValid = true) (hmessage : e.message = e'.message)
    (hfields : e.fields = e'.fields) : e = e' := by
  cases e with
  | header version =>
    cases e' with
    | header version' =>
      obtain ⟨a, b, c, d⟩ := version
      obtain ⟨a', b', c', d'⟩ := version'
      simpa [fields, FourBytes.toList] using hfields
    | _ => simp [message] at hmessage
  | sectionStart id offset size =>
    cases e' with
    | sectionStart id' offset' size' =>
      simp only [fields, List.cons.injEq, Prod.mk.injEq, LogValue.int.injEq, Int.ofNat_inj,
        UInt8.toNat_inj, UInt32.toNat_inj, true_and, and_true] at hfields
      obtain ⟨-, hid, rfl, rfl⟩ := hfields
      exact congrArg (sectionStart · offset size) (congrArg SectionId.mk hid)
    | _ => simp [message] at hmessage
  | trailingBytes index offset count =>
    cases e' with
    | trailingBytes index' offset' count' => simpa [fields] using hfields
    | _ => simp [message] at hmessage
  | body index size localEntries instructions =>
    cases e' with
    | body index' size' localEntries' instructions' => simpa [fields, UInt32.toNat_inj] using hfields
    | _ => simp [message] at hmessage
  | moduleDecoded sections bytes =>
    cases e' with
    | moduleDecoded sections' bytes' => simpa [fields] using hfields
    | _ => simp [message] at hmessage
  | exportVerified name func type =>
    cases e' with
    | exportVerified name' func' type' =>
      simp only [fields, List.cons.injEq, Prod.mk.injEq, LogValue.int.injEq, LogValue.text.injEq,
        Int.ofNat_inj, UInt32.toNat_inj, true_and, and_true] at hfields
      obtain ⟨rfl, rfl, htype⟩ := hfields
      exact congrArg (exportVerified name func) (FuncType.text_inj h h' htype)
    | _ => simp [message] at hmessage
  | moduleVerified exports =>
    cases e' with
    | moduleVerified exports' => simpa [fields] using hfields
    | _ => simp [message] at hmessage

end Event

open Logged

namespace Module

variable {options : DecodeOptions} {data bs : List UInt8} {version : FourBytes}
  {events : List Event}

def log (options : DecodeOptions) (data : List UInt8) : List Event :=
  (decodeLogged options data).outcome.2.toList

/-- Some version and anything behind it follow the magic bytes. -/
def Headed (data : List UInt8) (version : FourBytes) (bs : List UInt8) : Prop :=
  data = FourBytes.magic.toList ++ (version.toList ++ bs)

theorem log_eq {answer : Except DecodeFailure Module}
    (h : Leaves (decodeLogged options data) events answer) : log options data = events := by
  rw [log, outcome, h #[], Array.toList_appendList, List.nil_append]

theorem leaves_headed {ss : List Section} (hd : Headed data version bs)
    (h : Leaves (Decode.sections options ⟨8, bs⟩ []) events (.ok ss)) :
    Leaves (decodeLogged options data)
      (.header version :: (events ++ [.moduleDecoded ss.length data.length]))
      (.ok ⟨.magic, version, ss⟩) := by
  have hmodule : Leaves (pure ⟨.magic, version, ss⟩ : Logged DecodeFailure Module) [] _ :=
    leaves_pure _
  have hend := hmodule.note_bind [.moduleDecoded ss.length data.length]
  cases hd
  exact (h.bind hend).note_bind [.header version]

theorem leaves_headed_error {f : DecodeFailure} (hd : Headed data version bs)
    (h : Leaves (Decode.sections options ⟨8, bs⟩ []) events (.error f)) :
    Leaves (decodeLogged options data) (.header version :: events) (.error f) := by
  cases hd
  exact (h.bind_error _).note_bind [.header version]

theorem leaves_unheaded (h : ∀ version bs, ¬ Headed data version bs) :
    ∃ f, Leaves (decodeLogged options data) [] (.error f) := by
  have hfour := Decode.reads_placed Decode.reads_fourBytes [.header]
  have hfirst := Decode.leaves_lift [.header] Decode.fourBytes (.ofBytes data)
  unfold decodeLogged
  cases h₁ : Decode.placed [.header] Decode.fourBytes (.ofBytes data) with
  | error f =>
    rw [h₁] at hfirst
    exact ⟨f, hfirst.bind_error _⟩
  | ok p =>
    obtain ⟨magic, c⟩ := p
    obtain ⟨_, rfl, hs₁⟩ := (hfour _ _ _).1 h₁
    rw [h₁] at hfirst
    by_cases hm : magic = .magic
    · subst hm
      have hsecond := Decode.leaves_lift [.header] Decode.fourBytes c
      cases h₂ : Decode.placed [.header] Decode.fourBytes c with
      | error f =>
        rw [h₂] at hsecond
        exact ⟨f, hfirst.bind (hsecond.bind_error _)⟩
      | ok p =>
        obtain ⟨version, c'⟩ := p
        obtain ⟨_, rfl, hs₂⟩ := (hfour _ _ _).1 h₂
        exact absurd (hs₁.unread.trans (congrArg _ hs₂.unread)) (h version c'.unread)
    · refine ⟨⟨[], .invalidMagic magic.toList⟩, hfirst.bind ?_⟩
      dsimp only
      rw [if_pos hm]
      exact (leaves_throw _).bind_error _

theorem log_of_ok {m : Module} (h : decode options data = .ok m) : ∃ rs, Recorded data m rs ∧
    (∀ r ∈ rs, ∀ b ∈ r.layout.bodies, b.fault options = none) ∧
    8 :: rs.map (·.stop) = rs.map (·.layout.start) ++ [data.length] ∧
    log options data = .header m.version ::
      (rs.flatMap (·.events) ++ [.moduleDecoded m.sections.length data.length]) := by
  obtain @⟨bs, ss, version, sections⟩ := decode_eq_ok_iff.1 h
  have hrecorded : ∃ rs, Format.Sequence Section.Recorded 8 bs rs ∧ _ :=
    Section.many_iff_recorded.1 sections
  obtain ⟨rs, hrs, rfl, hclear⟩ := hrecorded
  have hlength : (FourBytes.magic.toList ++ (version.toList ++ bs)).length = 8 + bs.length := by
    simp [FourBytes.toList]
    omega
  have hend : Leaves (Decode.sections options ⟨8 + bs.length, []⟩
      ((rs.map (·.layout.content)).reverse ++ [])) [] (.ok (rs.map (·.layout.content))) := by
    rw [Decode.sections_nil, List.append_nil, List.reverse_reverse]
    exact leaves_pure _
  have hsections := Decode.leaves_sections hrs hclear hend
  rw [List.append_nil, List.append_nil] at hsections
  refine ⟨rs, .mk version hrs, hclear, ?_, log_eq (leaves_headed rfl hsections)⟩
  rw [hlength]
  exact Section.tiles_recorded hrs

theorem log_of_error {f : DecodeFailure} (h : decode options data = .error f)
    (hd : Headed data version bs) : ∃ front back rs last, bs = front ++ back ∧
      Format.Sequence Section.Recorded 8 front rs ∧
      (∀ r ∈ rs, ∀ b ∈ r.layout.bodies, b.fault options = none) ∧
      ¬ Format.Begins (Section.Written options) back ∧
      Section.Breaks options (8 + front.length) back last ∧
      log options data = .header version :: (rs.flatMap (·.events) ++ last) := by
  obtain ⟨front, rs, back, rfl, hrs, hclear, hback⟩ :=
    Section.exists_many_recorded options 8 bs
  have hne : back ≠ [] := by
    rintro rfl
    rw [List.append_nil] at hd
    cases hd
    have hwhole := Section.many_iff_recorded.2 ⟨rs, hrs, rfl, hclear⟩
    have hok := decode_eq_ok_iff.2 (Written.mk version hwhole)
    cases h.symm.trans hok
  obtain ⟨last, hlast⟩ := Section.breaks_of_not_begins (8 + front.length) hne hback
  obtain ⟨f, hf⟩ := Decode.leaves_sections_breaks hlast
    ((rs.map (·.layout.content)).reverse ++ [])
  have hsections := Decode.leaves_sections hrs hclear hf
  exact ⟨front, back, rs, last, rfl, hrs, hclear, hback, hlast,
    log_eq (leaves_headed_error hd hsections)⟩

/-- The debug log is an exact account of decoding. If a module is decoded, the log tells of the
header, of each section with the bodies it holds, and of the whole, and the sections that it tells
of tile the input behind the header. If none is, the log is empty where the header is no header, and
otherwise it tells of the header, of each section that is whole, and of the one that breaks off as
far as it is whole. -/
theorem log_exact (options : DecodeOptions) (data : List UInt8) :
    (∀ m, decode options data = .ok m → ∃ rs, Recorded data m rs ∧
      (∀ r ∈ rs, ∀ b ∈ r.layout.bodies, b.fault options = none) ∧
      8 :: rs.map (·.stop) = rs.map (·.layout.start) ++ [data.length] ∧
      log options data = .header m.version ::
        (rs.flatMap (·.events) ++ [.moduleDecoded m.sections.length data.length])) ∧
    ∀ f, decode options data = .error f →
      (∀ sections bytes, .moduleDecoded sections bytes ∉ log options data) ∧
      ((∀ version bs, ¬ Headed data version bs) → log options data = []) ∧
      ∀ version bs, Headed data version bs → ∃ front back rs last, bs = front ++ back ∧
        Format.Sequence Section.Recorded 8 front rs ∧
        (∀ r ∈ rs, ∀ b ∈ r.layout.bodies, b.fault options = none) ∧
        ¬ Format.Begins (Section.Written options) back ∧
        Section.Breaks options (8 + front.length) back last ∧
        log options data = .header version :: (rs.flatMap (·.events) ++ last) := by
  have hunheaded (h : ∀ version bs, ¬ Headed data version bs) : log options data = [] := by
    obtain ⟨f, hf⟩ := leaves_unheaded h
    exact log_eq hf
  refine ⟨fun m hm => log_of_ok hm, fun f hf => ⟨fun sections bytes => ?_, hunheaded, fun _ _ =>
    log_of_error hf⟩⟩
  by_cases hd : ∃ version bs, Headed data version bs
  · obtain ⟨version, bs, hd⟩ := hd
    obtain ⟨front, back, rs, last, -, -, -, -, hlast, hlog⟩ := log_of_error hf hd
    rw [hlog, List.mem_cons, List.mem_append, List.mem_flatMap]
    rintro (h | ⟨r, -, h⟩ | h)
    · cases h
    · exact r.moduleDecoded_notMem h
    · exact hlast.moduleDecoded_notMem h
  · rw [hunheaded fun version bs h => hd ⟨version, bs, h⟩]
    exact List.not_mem_nil

/-- A module of one section, the same with a code section whose second body is none, and bytes that
are no header. -/
theorem log_exact_broken_body :
    let types : List UInt8 := [0x01, 0x01, 0x00]
    let code : List UInt8 := [0x0A, 0x09, 0x02, 0x03, 0x00, 0x0B, 0xAA, 0x03, 0x00, 0xFF, 0x0B]
    let header : List UInt8 := [0x00, 0x61, 0x73, 0x6D, 1, 0, 0, 0]
    (∃ rs, Recorded (header ++ types) ⟨.magic, .version1, [.types []]⟩ rs ∧
      log {} (header ++ types) =
        .header .version1 :: (rs.flatMap (·.events) ++ [.moduleDecoded 1 11])) ∧
    (∃ front back rs last, types ++ code = front ++ back ∧
      Format.Sequence Section.Recorded 8 front rs ∧
      Section.Breaks {} (8 + front.length) back last ∧
      log {} (header ++ (types ++ code)) = .header .version1 :: (rs.flatMap (·.events) ++ last)) ∧
    log {} (header ++ (types ++ code)) = [.header .version1, .sectionStart .types 8 1,
      .sectionStart .code 11 9, .trailingBytes 0 17 1, .body 0 3 0 0] ∧
    log {} types = [] := by
  intro types code header
  have hwhole : decode {} (header ++ types) = .ok ⟨.magic, .version1, [.types []]⟩ := by
    decide +kernel
  have hbroken : decode {} (header ++ (types ++ code)) =
      .error ⟨[.content .code, .body 1], .invalidOpcode 20 0xFF⟩ := by decide +kernel
  have hnone : decode {} types = .error ⟨[.header], .underrun 0 4 3⟩ := by decide +kernel
  obtain ⟨rs, hrs, -, -, hlog⟩ := (log_exact {} (header ++ types)).1 _ hwhole
  obtain ⟨front, back, rs', last, hbytes, hrs', -, -, hlast, hlog'⟩ :=
    ((log_exact {} (header ++ (types ++ code))).2 _ hbroken).2.2 .version1 (types ++ code) rfl
  refine ⟨⟨rs, hrs, hlog⟩, ⟨front, back, rs', last, hbytes, hrs', hlast, hlog'⟩, ?_, ?_⟩
  · decide +kernel
  · apply ((log_exact {} types).2 _ hnone).2.1
    intro version bs h
    have hlength := congrArg List.length h
    simp [types, FourBytes.toList] at hlength

end Module

end WasmScope

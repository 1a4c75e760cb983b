import WasmScope.Proofs.Binary.Window

namespace WasmScope

variable {input : List UInt8}

namespace Window

/-- The window is on a region of the input, and its offset is one of the region. -/
structure Within (input : List UInt8) (w : Window) : Prop where
  offset_le : w.offset ≤ w.data.length
  stop_le : w.base + w.data.length ≤ input.length
  data_eq : w.data = (input.drop w.base).take w.data.length

/-- Any integer may be asked for; one below zero or past the end is refused, and any other is the
offset afterwards. -/
theorem reset?_eq_some_iff {w w' : Window} {offset : Int} :
    w.reset? offset = some w' ↔ 0 ≤ offset ∧ offset ≤ w.data.length ∧
      w'.base = w.base ∧ w'.data = w.data ∧ (w'.offset : Int) = offset := by
  obtain ⟨base, data, o⟩ := w
  obtain ⟨base', data', o'⟩ := w'
  unfold reset?
  constructor
  · intro h
    split at h
    · next hoffset =>
      cases h
      exact ⟨hoffset.1, hoffset.2, rfl, rfl, Int.toNat_of_nonneg hoffset.1⟩
    · cases h
  · rintro ⟨hlow, hhigh, rfl, rfl, rfl⟩
    rw [if_pos ⟨hlow, hhigh⟩]
    rfl

namespace Within

variable {w : Window}

theorem ofBytes (input : List UInt8) : (Window.ofBytes input).Within input := by
  constructor
  · exact Nat.zero_le _
  · exact Nat.le_of_eq (Nat.zero_add _)
  · exact (List.take_length).symm

theorem unread_eq (h : w.Within input) :
    w.unread = (input.drop w.position).take w.remaining := by
  rw [unread, h.data_eq, List.drop_take, List.drop_drop]
  rfl

theorem offset_add_le (h : w.Within input) {bs : List UInt8} (hbs : bs <+: w.unread) :
    w.offset + bs.length ≤ w.data.length :=
  Window.offset_add_le h.offset_le hbs

theorem skip (h : w.Within input) {bs : List UInt8} (hbs : bs <+: w.unread) :
    (w.skip bs.length).Within input :=
  ⟨h.offset_add_le hbs, h.stop_le, h.data_eq⟩

theorem openAt (h : w.Within input) {bs : List UInt8} (hbs : bs <+: w.unread) :
    (Window.openAt w.position bs).Within input := by
  have hlength := h.offset_add_le hbs
  have hstop := h.stop_le
  have hfits : bs.length ≤ w.remaining := by
    rw [remaining]
    omega
  refine ⟨Nat.zero_le _, ?_, ?_⟩
  · change w.base + w.offset + bs.length ≤ input.length
    omega
  · change bs = (input.drop w.position).take bs.length
    rw [h.unread_eq, List.prefix_iff_eq_take, List.take_take, Nat.min_eq_left hfits] at hbs
    exact hbs

theorem reset (h : w.Within input) {offset : Int} {w' : Window}
    (hw : w.reset? offset = some w') : w'.Within input := by
  obtain ⟨-, hoffset, hbase, hdata, rfl⟩ := reset?_eq_some_iff.1 hw
  refine ⟨?_, ?_, ?_⟩
  · rw [hdata]
    exact Int.ofNat_le.1 hoffset
  · rw [hbase, hdata]
    exact h.stop_le
  · rw [hbase, hdata]
    exact h.data_eq

end Within

end Window

namespace WindowStack

variable {s s' : WindowStack}

def windows (s : WindowStack) : List Window := s.top :: s.below

theorem step_read_iff {item : Item} {x : Datum} :
    s.step (.read item) = (.value x, s') ↔ ∃ bs, item.Written s.top.position bs x ∧
      bs <+: s.top.unread ∧ s' = { s with top := s.top.skip bs.length } := by
  rw [step]
  constructor
  · intro h
    split at h
    · cases h
    · next hr =>
      cases h
      obtain ⟨bs, hbs, hunread, rfl⟩ := Item.read_eq_ok_iff.1 hr
      exact ⟨bs, hbs, hunread, rfl⟩
  · intro h
    obtain ⟨bs, hbs, hunread, rfl⟩ := h
    rw [Item.read_eq_ok_iff.2 ⟨bs, hbs, hunread, rfl⟩]

theorem step_enter_iff {count : Int} :
    s.step (.enter count) = (.done, s') ↔ ∃ bs, (bs.length : Int) = count ∧
      bs <+: s.top.unread ∧ s' = ⟨.openAt s.top.position bs, s.top.skip bs.length :: s.below⟩ := by
  rw [step]
  constructor
  · intro h
    split at h
    · cases h
    · next hr =>
      cases h
      obtain ⟨bs, ⟨hlength, rfl⟩, hunread, rfl⟩ := WindowReader.region_eq_ok_iff.1 hr
      exact ⟨bs, hlength, hunread, rfl⟩
  · intro h
    obtain ⟨bs, hlength, hunread, rfl⟩ := h
    rw [WindowReader.region_eq_ok_iff.2 ⟨bs, ⟨hlength, rfl⟩, hunread, rfl⟩]

theorem step_of_defect {op : WindowOp} {d : Defect} (h : s.step op = (.defect d, s')) : s' = s := by
  cases op with
  | read item =>
    rw [step] at h
    split at h
    · next hr =>
      cases h
      rw [item.agrees_read.eq_of_error hr]
    · cases h
  | enter count =>
    rw [step] at h
    split at h
    · next hr =>
      cases h
      rw [(WindowReader.agrees_region count).eq_of_error hr]
    · cases h
  | leave =>
    rw [step] at h
    split at h <;> cases h
  | reset offset =>
    rw [step] at h
    split at h <;> cases h

theorem step_of_refused {op : WindowOp} {message : String}
    (h : s.step op = (.refused message, s')) : s' = s := by
  cases op with
  | reset offset =>
    rw [step] at h
    split at h
    · cases h
      rfl
    · cases h
  | read item =>
    rw [step] at h
    split at h <;> cases h
  | enter count =>
    rw [step] at h
    split at h <;> cases h
  | leave =>
    rw [step] at h
    split at h <;> cases h

def Within (input : List UInt8) (s : WindowStack) : Prop := ∀ w ∈ s.windows, w.Within input

theorem within_mk {top : Window} {below : List Window} :
    Within input ⟨top, below⟩ ↔ top.Within input ∧ ∀ w ∈ below, w.Within input :=
  List.forall_mem_cons

theorem Within.step (h : s.Within input) (op : WindowOp) : (s.step op).2.Within input := by
  obtain ⟨htop, hbelow⟩ := within_mk.1 h
  cases op with
  | read item =>
    rw [WindowStack.step]
    split
    · next hr =>
      rw [item.agrees_read.eq_of_error hr]
      exact h
    · next hr =>
      obtain ⟨bs, -, hunread, rfl⟩ := Item.read_eq_ok_iff.1 hr
      exact within_mk.2 ⟨htop.skip hunread, hbelow⟩
  | enter count =>
    rw [WindowStack.step]
    split
    · next hr =>
      rw [(WindowReader.agrees_region count).eq_of_error hr]
      exact h
    · next hr =>
      obtain ⟨bs, ⟨-, rfl⟩, hunread, rfl⟩ := WindowReader.region_eq_ok_iff.1 hr
      have hbelow' := List.forall_mem_cons.2 ⟨htop.skip hunread, hbelow⟩
      exact within_mk.2 ⟨htop.openAt hunread, hbelow'⟩
  | leave =>
    rw [WindowStack.step]
    split
    · exact h
    · next hs =>
      rw [hs] at hbelow
      exact hbelow
  | reset offset =>
    rw [WindowStack.step]
    split
    · exact h
    · next hr => exact within_mk.2 ⟨htop.reset hr, hbelow⟩

theorem Within.run (h : s.Within input) (ops : List WindowOp) : (s.run ops).Within input := by
  induction ops generalizing s with
  | nil => exact h
  | cons op ops ih => exact ih (h.step op)

/-- Whatever has been done to a stack of windows on an input, each of them stands on its region of
the input, with its position as that of its unread bytes there. An operation that fails leaves all
of them as they were. A read that succeeds moves the topmost one, and nothing else, behind the bytes
that its value is written with, which its region holds. -/
theorem run_sound (input : List UInt8) (ops : List WindowOp) :
    let s := (ofBytes input).run ops
    (∀ w ∈ s.windows, w.Within input ∧ w.unread = (input.drop w.position).take w.remaining) ∧
      (∀ op d s', s.step op = (.defect d, s') → s' = s) ∧
      (∀ op message s', s.step op = (.refused message, s') → s' = s) ∧
      (∀ item x s', s.step (.read item) = (.value x, s') ↔
        ∃ bs, item.Written s.top.position bs x ∧ bs <+: s.top.unread ∧
          s.top.offset + bs.length ≤ s.top.data.length ∧
          s' = { s with top := s.top.skip bs.length }) ∧
      ∀ count s', s.step (.enter count) = (.done, s') ↔
        ∃ bs, (bs.length : Int) = count ∧ bs <+: s.top.unread ∧
          s.top.offset + bs.length ≤ s.top.data.length ∧
          s' = ⟨.openAt s.top.position bs, s.top.skip bs.length :: s.below⟩ := by
  intro s
  have hstart : (ofBytes input).Within input := within_mk.2 ⟨.ofBytes input, nofun⟩
  have hs : s.Within input := hstart.run ops
  have htop : s.top.Within input := (within_mk.1 hs).1
  have hfits {P Q : List UInt8 → Prop} : (∃ bs, P bs ∧ bs <+: s.top.unread ∧ Q bs) ↔
      ∃ bs, P bs ∧ bs <+: s.top.unread ∧ s.top.offset + bs.length ≤ s.top.data.length ∧ Q bs := by
    apply exists_congr
    intro bs
    apply and_congr_right
    intro _
    apply and_congr_right
    intro hbs
    exact (and_iff_right (htop.offset_add_le hbs)).symm
  exact ⟨fun w hw => ⟨hs w hw, (hs w hw).unread_eq⟩, fun op d s' => step_of_defect,
    fun op message s' => step_of_refused, fun item x s' => step_read_iff.trans hfits,
    fun count s' => step_enter_iff.trans hfits⟩

/-- A vector of vectors that ends inside its second integer, two windows deep. -/
theorem run_sound_nested :
    let s := (ofBytes [0xAA, 0x03, 0x02, 0x01, 0x80]).run [.read .byte, .enter 4]
    (∃ d s', s.step (.read (.vector (.vector .u32))) = (.defect d, s') ∧ s' = s) ∧
      ∃ s', s.step (.reset 5) = (.refused Window.resetMessage, s') ∧ s' = s := by
  intro s
  obtain ⟨-, hdefect, hrefused, -, -⟩ :=
    run_sound [0xAA, 0x03, 0x02, 0x01, 0x80] [.read .byte, .enter 4]
  have hfails : (Item.vector (.vector .u32)).reader s.top.cursor = .error (.underrun 5 1 0) := rfl
  have hread : s.step (.read (.vector (.vector .u32))) = (.defect (.underrun 5 1 0), s) := by
    rw [step, (Item.agrees_read _).error hfails]
  have hreset : s.step (.reset 5) = (.refused Window.resetMessage, s) := rfl
  exact ⟨⟨_, _, hread, hdefect _ _ _ hread⟩, _, hreset, hrefused _ _ _ hreset⟩

end WindowStack

end WasmScope

import WasmScope.Browser.Basic
import WasmScope.Proofs.Text.Printable

namespace WasmScope

namespace Viewport

def Scrolled (v v' : Viewport) : Prop := ∃ o, v' = { v with offset := o }

/-- Whatever the message, the viewport only scrolls. -/
def OnlyScrolls (respond : Viewport → Message → Viewport) : Prop :=
  ∀ (v : Viewport) (message : Message), v.Scrolled (respond v message)

variable (v : Viewport)

theorem scrolled_self : v.Scrolled v := ⟨v.offset, rfl⟩

theorem scrolled_goTo (offset : Nat) : v.Scrolled (v.goTo offset) := ⟨_, rfl⟩

theorem scrolled_down (n : Nat) : v.Scrolled (v.down n) := by
  rw [down]
  split
  · exact v.scrolled_self
  · exact v.scrolled_goTo _

theorem scrolled_up (n : Nat) : v.Scrolled (v.up n) := by
  rw [up]
  split
  · exact v.scrolled_self
  · exact v.scrolled_goTo _

theorem scrolled_setText (text : String) :
    { v with lines := Text.splitLines text }.Scrolled (v.setText text) := by
  rw [setText]
  split
  · exact scrolled_goTo _ _
  · exact scrolled_self _

theorem onlyScrolls_respond : OnlyScrolls respond := by
  intro v message
  rw [respond.eq_def]
  split <;> simp only [scrolled_down, scrolled_up, scrolled_self]

end Viewport

namespace Browser

variable {m : Module} {b : Browser} {respond : Viewport → Message → Viewport} {message : Message}

/-- An index of a section, or the first index where there are no sections. -/
def Selectable (m : Module) (i : Nat) : Prop :=
  i < m.sections.length ∨ m.sections = [] ∧ i = 0

/-- The browser is on the module, its selection on a section, and its pane on the text of that. -/
structure Shows (m : Module) (b : Browser) : Prop where
  module_eq : b.module = m
  selectable : Selectable m b.selected
  lines_eq : b.pane.lines = Text.splitLines b.paneText
  width_ge : 10 ≤ b.pane.width
  height_pos : 1 ≤ b.pane.height

theorem selectable_zero (m : Module) : Selectable m 0 := by
  cases hsections : m.sections with
  | nil => exact .inr ⟨hsections, rfl⟩
  | cons s rest => exact .inl (by rw [hsections]; exact Nat.zero_lt_succ _)

theorem Shows.scroll (h : Shows m b) {pane : Viewport} (hpane : b.pane.Scrolled pane) :
    Shows m { b with pane } := by
  obtain ⟨o, rfl⟩ := hpane
  exact ⟨h.module_eq, h.selectable, h.lines_eq, h.width_ge, h.height_pos⟩

theorem scrolled_refresh (b : Browser) :
    { b.pane with lines := Text.splitLines b.paneText }.Scrolled b.refresh.pane := by
  obtain ⟨o, hpane⟩ := b.pane.scrolled_setText b.paneText
  rw [refresh, hpane]
  dsimp only
  split
  · exact ⟨o, rfl⟩
  · exact ⟨0, rfl⟩

theorem shows_refresh (hmodule : b.module = m) (hselected : Selectable m b.selected)
    (hwidth : 10 ≤ b.pane.width) (hheight : 1 ≤ b.pane.height) : Shows m b.refresh := by
  obtain ⟨o, hpane⟩ := scrolled_refresh b
  refine ⟨hmodule, hselected, ?_, ?_, ?_⟩
  · rw [hpane]
    rfl
  · rw [hpane]
    exact hwidth
  · rw [hpane]
    exact hheight

theorem shows_start (filename : String) (m : Module) : Shows m (start filename m) := by
  have hwidth : 10 ≤ 80 - listWidth := by decide
  have hheight : 1 ≤ 24 - chromeHeight := by decide
  exact shows_refresh rfl (selectable_zero m) hwidth hheight

theorem Shows.select (h : Shows m b) {i : Nat} (hi : Selectable m i) : Shows m (b.select i) :=
  shows_refresh h.module_eq hi h.width_ge h.height_pos

theorem Shows.resize (h : Shows m b) (width height : Int) : Shows m (b.resize width height) := by
  refine ⟨h.module_eq, h.selectable, h.lines_eq, ?_, ?_⟩
  · change 10 ≤ (max (width - listWidth - 2) 10).toNat
    omega
  · change 1 ≤ (max (height - chromeHeight) 1).toNat
    omega

theorem Shows.selectPrevious_cases (h : Shows m b) :
    b.selectPrevious = b ∨ ∃ i, Selectable m i ∧ b.selectPrevious = b.select i := by
  rw [selectPrevious]
  split
  · next hpos =>
    refine .inr ⟨_, ?_, rfl⟩
    rcases h.selectable with hlt | ⟨-, hzero⟩
    · exact .inl (by omega)
    · omega
  · exact .inl rfl

theorem Shows.selectNext_cases (h : Shows m b) :
    b.selectNext = b ∨ ∃ i, Selectable m i ∧ b.selectNext = b.select i := by
  rw [selectNext, h.module_eq]
  split
  · next hlt => exact .inr ⟨_, .inl hlt, rfl⟩
  · exact .inl rfl

/-- What a message can do: nothing, move the selection to a section, or reach the pane, possibly
after a change of its size. -/
theorem Shows.updateWith_cases (h : Shows m b) (respond : Viewport → Message → Viewport)
    (message : Message) :
    (b.updateWith respond message = b ∨
      ∃ i, Selectable m i ∧ b.updateWith respond message = b.select i) ∨
      ∃ b', (b' = b ∨ ∃ width height, b' = b.resize width height) ∧
        b.updateWith respond message = { b' with pane := respond b'.pane message } := by
  rw [updateWith.eq_def]
  split
  · exact .inl (.inl rfl)
  split
  · exact .inl h.selectPrevious_cases
  · exact .inl h.selectPrevious_cases
  · exact .inl h.selectNext_cases
  · exact .inl h.selectNext_cases
  · exact .inl (.inr ⟨0, selectable_zero m, rfl⟩)
  · exact .inl (.inr ⟨0, selectable_zero m, rfl⟩)
  · next width height _ => exact .inr ⟨b.resize width height, .inr ⟨width, height, rfl⟩, rfl⟩
  · exact .inr ⟨b, .inl rfl, rfl⟩

/-- The index after a message, in integers: only the guards keep it on the sections. -/
def indexAfter (sections : Nat) (index : Int) : Message → Int
  | .key .up | .key (.char 'k') => if 0 < index then index - 1 else index
  | .key .down | .key (.char 'j') => if index < sections - 1 then index + 1 else index
  | .key .home | .key (.char 'g') => 0
  | _ => index

theorem indexAfter_bounds {sections : Nat} {index : Int}
    (h : 0 ≤ index ∧ index < max sections 1) (message : Message) :
    0 ≤ indexAfter sections index message ∧ indexAfter sections index message < max sections 1 := by
  rw [indexAfter.eq_def]
  split
  · split <;> omega
  · split <;> omega
  · split <;> omega
  · split <;> omega
  · omega
  · omega
  · exact h

theorem selected_selectPrevious (b : Browser) :
    (b.selectPrevious.selected : Int) =
      if 0 < (b.selected : Int) then (b.selected : Int) - 1 else b.selected := by
  rw [selectPrevious]
  split
  · next hpos =>
    rw [if_pos (Int.natCast_pos.2 hpos)]
    exact Int.natCast_sub hpos
  · next hzero => rw [if_neg (by omega)]

theorem selected_selectNext (b : Browser) :
    (b.selectNext.selected : Int) =
      if (b.selected : Int) < b.module.sections.length - 1 then (b.selected : Int) + 1
      else b.selected := by
  rw [selectNext]
  split
  · next hlt =>
    rw [if_pos (by omega)]
    rfl
  · next hlast => rw [if_neg (by omega)]

theorem selected_updateWith (respond : Viewport → Message → Viewport) (b : Browser)
    (message : Message) :
    ((b.updateWith respond message).selected : Int) =
      indexAfter b.module.sections.length b.selected message := by
  rw [updateWith.eq_def]
  split
  · next hquits =>
    unfold quits at hquits
    split at hquits
    · rfl
    · rfl
    · cases hquits
  split
  · exact b.selected_selectPrevious
  · exact b.selected_selectPrevious
  · exact b.selected_selectNext
  · exact b.selected_selectNext
  · rfl
  · rfl
  · rfl
  · rw [indexAfter.eq_def]
    split
    all_goals first | rfl | contradiction

theorem Shows.updateWith (h : Shows m b) (hrespond : Viewport.OnlyScrolls respond)
    (message : Message) : Shows m (b.updateWith respond message) := by
  rcases h.updateWith_cases respond message with (hb | ⟨i, hi, hb⟩) | ⟨b', hb', hb⟩
  · rw [hb]
    exact h
  · rw [hb]
    exact h.select hi
  · have hshows : Shows m b' := by
      rcases hb' with rfl | ⟨width, height, rfl⟩
      · exact h
      · exact h.resize width height
    rw [hb]
    exact hshows.scroll (hrespond b'.pane message)

theorem Shows.run (h : Shows m b) (hrespond : Viewport.OnlyScrolls respond)
    (messages : List Message) : Shows m (messages.foldl (Browser.updateWith respond) b) := by
  induction messages generalizing b with
  | nil => exact h
  | cons message messages ih => exact ih (h.updateWith hrespond message)

theorem select_offset (hsections : b.module.sections ≠ []) (i : Nat) :
    (b.select i).pane.offset = 0 := by
  have hsome : b.module.sections.isEmpty = false := List.isEmpty_eq_false_iff.2 hsections
  rw [select, refresh]
  dsimp only
  rw [hsome]
  rfl

theorem Shows.offset_of_selected_ne (h : Shows m b)
    (hne : (b.updateWith respond message).selected ≠ b.selected) :
    (b.updateWith respond message).pane.offset = 0 := by
  rcases h.updateWith_cases respond message with (hb | ⟨i, hi, hb⟩) | ⟨b', hb', hb⟩
  · exact absurd (congrArg selected hb) hne
  · rw [hb]
    apply select_offset
    -- without sections there is one index only, so that the selection could not have changed
    intro hnil
    rw [h.module_eq] at hnil
    have hzero : i = 0 := by simpa [Selectable, hnil] using hi
    have hselected : b.selected = 0 := by simpa [Selectable, hnil] using h.selectable
    rw [hb] at hne
    exact hne (hzero.trans hselected.symm)
  · rw [hb] at hne
    rcases hb' with rfl | ⟨width, height, rfl⟩
    · exact absurd rfl hne
    · exact absurd rfl hne

theorem Shows.reaches (h : Shows m b) (hrespond : Viewport.OnlyScrolls respond) {i : Nat}
    (hi : i < m.sections.length) :
    ∃ messages : List Message, (messages.foldl (Browser.updateWith respond) b).selected = i := by
  induction i with
  | zero => exact ⟨[.key .home], rfl⟩
  | succ i ih =>
    obtain ⟨messages, hselected⟩ := ih (Nat.lt_of_succ_lt hi)
    have hmodule := (h.run hrespond messages).module_eq
    refine ⟨messages ++ [.key .down], ?_⟩
    have hnext := selected_updateWith respond (messages.foldl (Browser.updateWith respond) b)
      (.key .down)
    rw [hmodule, hselected, indexAfter, if_pos (by omega)] at hnext
    rw [List.foldl_append]
    exact Int.ofNat_inj.1 hnext

theorem Shows.content (h : Shows m b) :
    (∃ hlt : b.selected < m.sections.length,
        "\n".intercalate b.pane.lines = m.sections[b.selected].text) ∨
      m.sections = [] ∧ b.selected = 0 ∧ "\n".intercalate b.pane.lines = emptyText := by
  rw [h.lines_eq, Text.intercalate_splitLines, paneText, h.module_eq]
  rcases h.selectable with hlt | ⟨hnil, hzero⟩
  · rw [List.getElem?_eq_getElem hlt]
    exact .inl ⟨hlt, rfl⟩
  · rw [hnil]
    exact .inr ⟨rfl, hzero, rfl⟩

/-- The browser of a module after any messages, with any pane that by itself only scrolls, as that
of the program does. The selection is on a section and the pane holds the text of that section,
unless there are no sections; the pane keeps its least size; another section is shown from its first
line; and no section is out of reach. -/
theorem selection_shown (filename : String) (m : Module) :
    Viewport.OnlyScrolls Viewport.respond ∧
      ∀ respond, Viewport.OnlyScrolls respond → ∀ messages : List Message,
        let b := messages.foldl (Browser.updateWith respond) (start filename m)
        ((∃ hlt : b.selected < m.sections.length,
            "\n".intercalate b.pane.lines = m.sections[b.selected].text) ∨
          m.sections = [] ∧ b.selected = 0 ∧ "\n".intercalate b.pane.lines = emptyText) ∧
        (10 ≤ b.pane.width ∧ 1 ≤ b.pane.height) ∧
        (∀ message, (b.updateWith respond message).selected ≠ b.selected →
          (b.updateWith respond message).pane.offset = 0) ∧
        ∀ i < m.sections.length, ∃ further : List Message,
          (further.foldl (Browser.updateWith respond) b).selected = i := by
  refine ⟨Viewport.onlyScrolls_respond, ?_⟩
  intro respond hrespond messages b
  have hb : Shows m b := (shows_start filename m).run hrespond messages
  exact ⟨hb.content, ⟨hb.width_ge, hb.height_pos⟩, fun message => hb.offset_of_selected_ne,
    fun i hi => hb.reaches hrespond hi⟩

/-- A pane of one line that is scrolled down when the next section is selected. -/
theorem selection_shown_scrolled :
    let m : Module := ⟨.magic, .version1, [.functions [0, 0], .exports []]⟩
    let b := [.resize (-5) 0, .key .pageDown].foldl update (start "a.wasm" m)
    b.pane.offset = 1 ∧ b.pane.height = 1 ∧ (b.update (.key .down)).selected = 1 ∧
      (b.update (.key .down)).pane.offset = 0 := by
  intro m b
  have hoffset : b.pane.offset = 1 := by decide +kernel
  have hselected : b.selected = 0 := by decide +kernel
  have hnext : (b.update (.key .down)).selected = 1 := by decide +kernel
  obtain ⟨honly, hrun⟩ := selection_shown "a.wasm" m
  obtain ⟨-, -, htop, -⟩ := hrun Viewport.respond honly [.resize (-5) 0, .key .pageDown]
  refine ⟨hoffset, by decide +kernel, hnext, htop (.key .down) ?_⟩
  change (b.update (.key .down)).selected ≠ b.selected
  omega

end Browser

end WasmScope

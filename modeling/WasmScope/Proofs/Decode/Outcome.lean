import WasmScope.Decode.Module

namespace WasmScope

section

variable {ε ε' α β : Type} {x : Except ε α}

theorem except_bind_eq_ok {f : α → Except ε β} {b : β} :
    x.bind f = .ok b ↔ ∃ a, x = .ok a ∧ f a = .ok b := by
  cases x with
  | error e => simp [Except.bind]
  | ok a => simp [Except.bind]

theorem except_map_eq_ok {f : α → β} {b : β} : x.map f = .ok b ↔ ∃ a, x = .ok a ∧ f a = b := by
  cases x with
  | error e => simp [Except.map]
  | ok a => simp [Except.map]

theorem except_bind_eq_error {f : α → Except ε β} {e : ε} :
    x.bind f = .error e ↔ x = .error e ∨ ∃ a, x = .ok a ∧ f a = .error e := by
  cases x with
  | error e => simp [Except.bind]
  | ok a => simp [Except.bind]

theorem except_map_eq_error {f : α → β} {e : ε} : x.map f = .error e ↔ x = .error e := by
  cases x with
  | error e => simp [Except.map]
  | ok a => simp [Except.map]

theorem except_mapError_eq_ok {f : ε → ε'} {a : α} : x.mapError f = .ok a ↔ x = .ok a := by
  cases x with
  | error e => exact iff_of_false nofun nofun
  | ok a' =>
    constructor
    · intro h
      exact congrArg Except.ok (Except.ok.inj h)
    · intro h
      exact congrArg Except.ok (Except.ok.inj h)

theorem except_mapError_eq_error {f : ε → ε'} {e : ε'} :
    x.mapError f = .error e ↔ ∃ d, x = .error d ∧ f d = e := by
  cases x with
  | error d =>
    constructor
    · intro h
      exact ⟨d, rfl, Except.error.inj h⟩
    · intro h
      obtain ⟨_, hd, rfl⟩ := h
      cases hd
      rfl
  | ok a => exact iff_of_false nofun nofun

end

namespace Logged

variable {ε ε' α β : Type}

/-- The work ends this way, whatever was logged before it. -/
def Gives (work : Logged ε α) (answer : Except ε α) : Prop := ∀ log, (work.run log).1 = answer

theorem gives_pure (x : α) : Gives (pure x : Logged ε α) (.ok x) := fun _ => rfl

theorem gives_throw (e : ε) : Gives (throw e : Logged ε α) (.error e) := fun _ => rfl

theorem gives_throw_bind (e : ε) (next : α → Logged ε β) :
    Gives (throw e >>= next) (.error e) := fun _ => rfl

theorem gives_note (events : List Event) : Gives (note events : Logged ε Unit) (.ok ()) :=
  fun _ => rfl

theorem Gives.bind {work : Logged ε α} {next : α → Logged ε β} {answer : Except ε α}
    {answers : α → Except ε β} (h : Gives work answer) (hn : ∀ x, Gives (next x) (answers x)) :
    Gives (work >>= next) (answer >>= answers) := by
  intro log
  have hw := h log
  change (ExceptT.bindCont next (work.run log).1 (work.run log).2).1 = _
  rw [hw]
  cases answer with
  | error e => rfl
  | ok x => exact hn x _

theorem Gives.note_bind {work : Logged ε α} {answer : Except ε α} (events : List Event)
    (h : Gives work answer) : Gives (do note events; work) answer :=
  (gives_note events).bind fun _ => h

theorem Gives.map {work : Logged ε α} {answer : Except ε α} (h : Gives work answer) (f : α → β) :
    Gives (f <$> work) (f <$> answer) := by
  have hb := h.bind fun x => gives_pure (f x)
  rw [map_eq_pure_bind]
  cases answer with
  | error e => exact hb
  | ok x => exact hb

theorem Gives.adapt {work : Logged ε α} {answer : Except ε α} (h : Gives work answer)
    (f : ε → ε') : Gives (ExceptT.adapt f work) (answer.mapError f) := by
  intro log
  have hw := h log
  change ((work.run log).1.mapError f) = _
  rw [hw]

end Logged

namespace Decode

/-- Reading that says in which part of the module a defect is. -/
abbrev PlacedReader := StateT Cursor (Except DecodeFailure)

def placed {α : Type} (places : List Place) (r : Reader α) : PlacedReader α := fun c =>
  (r c).mapError (⟨places, ·⟩)

def placedBody (options : DecodeOptions) (index : Nat) : PlacedReader FuncBody := do
  let read ← placed [.body index] (body options)
  pure read.body

def placedContent (options : DecodeOptions) (id : SectionId) : Option (PlacedReader Section) :=
  match id.byte with
  | 1 => some (.types <$> placed [] (Reader.vector Reader.funcType))
  | 3 => some (.functions <$> placed [] (Reader.vector Reader.u32))
  | 7 => some (.exports <$> placed [] (Reader.vector Reader.exportEntry))
  | 10 => some do
    let count ← placed [] Reader.u32
    let bodies ← Reader.repeated (placedBody options) count.toNat 0 []
    pure (.code bodies)
  | _ => none

def SectionFrame.answer (options : DecodeOptions) (frame : SectionFrame) :
    Except DecodeFailure Section :=
  match placedContent options frame.id with
  | none => .error ⟨[], .unknownSection frame.offset frame.id.byte⟩
  | some content =>
    (Prod.fst <$> content frame.content).mapError (·.within (.content frame.id))

def sectionList (options : DecodeOptions) (c : Cursor) : Except DecodeFailure (List Section) :=
  match hc : c.unread with
  | [] => .ok []
  | id :: after =>
    match h : sectionFrame ⟨id⟩ c.position ⟨c.position + 1, after⟩ with
    | .error f => .error f
    | .ok (frame, rest) =>
      have : rest.unread.length < c.unread.length := by
        have := sectionFrame_shortens h
        simp only [hc, List.length_cons] at this ⊢
        omega
      (frame.answer options).bind fun s => (sectionList options rest).map (s :: ·)
termination_by c.unread.length

theorem sectionList_nil {options : DecodeOptions} {c : Cursor} (hc : c.unread = []) :
    sectionList options c = .ok [] := by
  rw [sectionList]
  split
  · rfl
  · next h => cases hc.symm.trans h

theorem sectionList_error {options : DecodeOptions} {c : Cursor} {id : UInt8}
    {after : List UInt8} {f : DecodeFailure} (hc : c.unread = id :: after)
    (hf : sectionFrame ⟨id⟩ c.position ⟨c.position + 1, after⟩ = .error f) :
    sectionList options c = .error f := by
  rw [sectionList]
  split
  · next h => cases hc.symm.trans h
  · next h =>
    cases hc.symm.trans h
    split
    · next h =>
      cases hf.symm.trans h
      rfl
    · next h => cases hf.symm.trans h

theorem sectionList_cons {options : DecodeOptions} {c rest : Cursor} {id : UInt8}
    {after : List UInt8} {frame : SectionFrame} (hc : c.unread = id :: after)
    (hf : sectionFrame ⟨id⟩ c.position ⟨c.position + 1, after⟩ = .ok (frame, rest)) :
    sectionList options c =
      (frame.answer options).bind fun s => (sectionList options rest).map (s :: ·) := by
  rw [sectionList]
  split
  · next h => cases hc.symm.trans h
  · next h =>
    cases hc.symm.trans h
    split
    · next h => cases hf.symm.trans h
    · next h =>
      cases hf.symm.trans h
      rfl

def LoggedReader.Gives {α : Type} (r : LoggedReader α) (r' : PlacedReader α) : Prop :=
  ∀ c, Logged.Gives (r c) (r' c)

namespace LoggedReader

variable {α β : Type}

theorem gives_lift (places : List Place) (r : Reader α) :
    Gives (lift places r) (placed places r) := by
  intro c
  unfold lift placed
  cases r c with
  | error d => exact Logged.gives_throw _
  | ok p => exact Logged.gives_pure _

theorem gives_pure (x : α) : Gives (pure x) (pure x) := fun c => Logged.gives_pure (x, c)

theorem Gives.bind {r : LoggedReader α} {r' : PlacedReader α} {f : α → LoggedReader β}
    {f' : α → PlacedReader β} (h : Gives r r') (hf : ∀ x, Gives (f x) (f' x)) :
    Gives (r >>= f) (r' >>= f') := fun c => (h c).bind fun p => hf p.1 p.2

theorem Gives.map {r : LoggedReader α} {r' : PlacedReader α} (h : Gives r r') (f : α → β) :
    Gives (f <$> r) (f <$> r') := by
  rw [map_eq_pure_bind, map_eq_pure_bind]
  exact h.bind fun x => gives_pure (f x)

theorem gives_repeated {step : Nat → LoggedReader α} {step' : Nat → PlacedReader α}
    (h : ∀ i, Gives (step i) (step' i)) (n i : Nat) (done : List α) :
    Gives (Reader.repeated step n i done) (Reader.repeated step' n i done) := by
  induction n generalizing i done with
  | zero => exact gives_pure _
  | succ n ih => exact (h i).bind fun x => ih (i + 1) (x :: done)

end LoggedReader

theorem gives_loggedBody (options : DecodeOptions) (index : Nat) :
    LoggedReader.Gives (loggedBody options index) (placedBody options index) := by
  apply (LoggedReader.gives_lift _ _).bind
  intro read c
  exact (Logged.gives_pure (read.body, c)).note_bind (read.events index)

section

variable {options : DecodeOptions} {id : SectionId} (h : ∀ s : Section, s.id ≠ id)

include h

theorem sectionContent_eq_none : sectionContent options id = none := by
  obtain ⟨b⟩ := id
  unfold sectionContent
  dsimp only
  split
  · exact absurd rfl (h (.types []))
  · exact absurd rfl (h (.functions []))
  · exact absurd rfl (h (.exports []))
  · exact absurd rfl (h (.code []))
  · rfl

theorem placedContent_eq_none : placedContent options id = none := by
  obtain ⟨b⟩ := id
  unfold placedContent
  dsimp only
  split
  · exact absurd rfl (h (.types []))
  · exact absurd rfl (h (.functions []))
  · exact absurd rfl (h (.exports []))
  · exact absurd rfl (h (.code []))
  · rfl

end

/-- A section id is known to both readers, and then they answer alike, or to neither. -/
theorem gives_sectionContent (options : DecodeOptions) (id : SectionId) :
    (sectionContent options id = none ∧ placedContent options id = none) ∨
      ∃ r r', sectionContent options id = some r ∧ placedContent options id = some r' ∧
        LoggedReader.Gives r r' := by
  by_cases hid : ∃ s : Section, s.id = id
  · obtain ⟨s, rfl⟩ := hid
    refine .inr ?_
    cases s with
    | types => exact ⟨_, _, rfl, rfl, (LoggedReader.gives_lift _ _).map _⟩
    | functions => exact ⟨_, _, rfl, rfl, (LoggedReader.gives_lift _ _).map _⟩
    | exports => exact ⟨_, _, rfl, rfl, (LoggedReader.gives_lift _ _).map _⟩
    | code =>
      refine ⟨_, _, rfl, rfl, (LoggedReader.gives_lift _ _).bind fun count => ?_⟩
      refine LoggedReader.Gives.bind ?_ fun bodies => LoggedReader.gives_pure _
      exact LoggedReader.gives_repeated (gives_loggedBody options) _ _ _
  · rw [not_exists] at hid
    exact .inl ⟨sectionContent_eq_none hid, placedContent_eq_none hid⟩

theorem gives_read (options : DecodeOptions) (frame : SectionFrame) :
    Logged.Gives (frame.read options) (frame.answer options) := by
  unfold SectionFrame.read SectionFrame.answer
  rcases gives_sectionContent options frame.id with ⟨h, h'⟩ | ⟨r, r', h, h', hr⟩
  · rw [h, h']
    exact Logged.gives_throw _
  · rw [h, h']
    exact (((hr frame.content).map Prod.fst).adapt _).note_bind _

theorem gives_sections (options : DecodeOptions) (c : Cursor) (done : List Section) :
    Logged.Gives (sections options c done)
      ((sectionList options c).map (done.reverse ++ ·)) := by
  fun_induction sections options c done with
  | case1 c done hc =>
    rw [sectionList_nil hc]
    simpa [Except.map] using Logged.gives_pure done.reverse
  | case2 c done id after hc f h =>
    rw [sectionList_error hc h]
    exact Logged.gives_throw f
  | case3 c done id after hc frame rest h hlt ih =>
    rw [sectionList_cons hc h]
    have hb := (gives_read options frame).bind ih
    cases hs : frame.answer options with
    | error f =>
      rw [hs] at hb
      exact hb
    | ok s =>
      rw [hs] at hb
      cases hss : sectionList options rest with
      | error f =>
        rw [hss] at hb
        exact hb
      | ok ss =>
        rw [hss] at hb
        simpa [bind, Except.bind, Except.map] using hb

end Decode

namespace Module

def answer (options : DecodeOptions) (data : List UInt8) : Except DecodeFailure Module :=
  (Decode.placed [.header] Decode.fourBytes (.ofBytes data)).bind fun (magic, c) =>
    if magic = .magic then
      (Decode.placed [.header] Decode.fourBytes c).bind fun (version, c) =>
        (Decode.sectionList options c).map (⟨magic, version, ·⟩)
    else .error ⟨[], .invalidMagic magic.toList⟩

theorem decode_eq_answer (options : DecodeOptions) (data : List UInt8) :
    decode options data = answer options data := by
  suffices h : Logged.Gives (decodeLogged options data) (answer options data) from h #[]
  refine (Decode.LoggedReader.gives_lift _ _ _).bind fun (magic, c) => ?_
  dsimp only
  by_cases hm : magic = .magic
  · rw [if_pos hm, if_neg (not_not_intro hm)]
    refine (Decode.LoggedReader.gives_lift _ _ _).bind fun (version, c) => ?_
    have hs := (Decode.gives_sections options c []).bind fun ss =>
      (Logged.gives_pure (Module.mk magic version ss)).note_bind
        [.moduleDecoded ss.length data.length]
    have hn := hs.note_bind [.header version]
    cases hss : Decode.sectionList options c with
    | error f =>
      rw [hss] at hn
      exact hn
    | ok ss =>
      rw [hss] at hn
      exact hn
  · rw [if_neg hm, if_pos hm]
    exact Logged.gives_throw_bind _ _

end Module

end WasmScope

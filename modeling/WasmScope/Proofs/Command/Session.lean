import WasmScope.Command.Run

namespace WasmScope

namespace Session

variable {α β : Type} {work : Session α} {next : α → Session β} {printed more : String}
  {x : α} {f : Failure} {answer : Except Failure β}

/-- The work ends this way and adds this text to whatever is printed already. -/
def Leaves (work : Session α) (printed : String) (answer : Except Failure α) : Prop :=
  ∀ c, (work.run c).1 = answer ∧ (work.run c).2.output = c.output ++ printed

theorem leaves_pure (x : α) : Leaves (pure x) "" (.ok x) := fun _ =>
  ⟨rfl, String.append_empty.symm⟩

theorem leaves_attempt (answer : Except Failure α) : Leaves (attempt answer) "" answer := fun _ =>
  ⟨rfl, String.append_empty.symm⟩

theorem leaves_note (text : String) : Leaves (note text) "" (.ok ()) := fun _ =>
  ⟨rfl, String.append_empty.symm⟩

theorem leaves_print (text : String) : Leaves (print text) text (.ok ()) := fun _ => ⟨rfl, rfl⟩

theorem Leaves.bind (h : Leaves work printed (.ok x)) (hn : Leaves (next x) more answer) :
    Leaves (work >>= next) (printed ++ more) answer := by
  intro c
  obtain ⟨hanswer, houtput⟩ := h c
  change (ExceptT.bindCont next (work.run c).1 (work.run c).2).1 = answer ∧
    (ExceptT.bindCont next (work.run c).1 (work.run c).2).2.output = _
  rw [hanswer, ← String.append_assoc, ← houtput]
  exact hn (work.run c).2

theorem Leaves.silent_bind (h : Leaves work "" (.ok x)) (hn : Leaves (next x) more answer) :
    Leaves (work >>= next) more answer := by
  have hb := h.bind hn
  rwa [String.empty_append] at hb

theorem Leaves.bind_error (h : Leaves work printed (.error f)) (next : α → Session β) :
    Leaves (work >>= next) printed (.error f) := by
  intro c
  obtain ⟨hanswer, houtput⟩ := h c
  change (ExceptT.bindCont next (work.run c).1 (work.run c).2).1 = _ ∧
    (ExceptT.bindCont next (work.run c).1 (work.run c).2).2.output = _
  rw [hanswer]
  exact ⟨rfl, houtput⟩

theorem leaves_forM_print (texts : List String) :
    Leaves (texts.forM print) (String.join texts) (.ok ()) := by
  induction texts with
  | nil => exact leaves_pure ()
  | cons text texts ih =>
    rw [String.join_cons]
    exact (leaves_print text).bind ih

def Silent (work : Session α) : Prop := ∃ answer, Leaves work "" answer

theorem Leaves.silent {answer : Except Failure α} (h : Leaves work "" answer) : Silent work :=
  ⟨answer, h⟩

theorem Silent.bind (h : Silent work) (hn : ∀ x, Silent (next x)) : Silent (work >>= next) := by
  obtain ⟨answer, h⟩ := h
  cases answer with
  | error f => exact (h.bind_error next).silent
  | ok x =>
    obtain ⟨answer, hx⟩ := hn x
    exact (h.silent_bind hx).silent

theorem Silent.when {work : Session Unit} (h : Silent work) (wanted : Bool) :
    Silent (Session.when wanted work) := by
  cases wanted with
  | false => exact (leaves_pure ()).silent
  | true => exact h

/-- The work prints nothing before it fails. -/
def PrintsLast (work : Session α) : Prop :=
  ∃ printed answer, Leaves work printed answer ∧ ∀ f, answer = .error f → printed = ""

theorem Silent.printsLast (h : Silent work) : PrintsLast work := by
  obtain ⟨answer, h⟩ := h
  exact ⟨_, answer, h, fun _ _ => rfl⟩

theorem Leaves.printsLast (h : Leaves work printed (.ok x)) : PrintsLast work :=
  ⟨_, _, h, nofun⟩

theorem Silent.bind_printsLast (h : Silent work) (hn : ∀ x, PrintsLast (next x)) :
    PrintsLast (work >>= next) := by
  obtain ⟨answer, h⟩ := h
  cases answer with
  | error f => exact (h.bind_error next).silent.printsLast
  | ok x =>
    obtain ⟨printed, answer, hx, hlast⟩ := hn x
    exact ⟨printed, answer, h.silent_bind hx, hlast⟩

end Session

open Session

namespace Command

theorem leaves_decodeNamed (settings : Settings) (file : String) (data : List UInt8) :
    Leaves (decodeNamed settings file data) ""
      ((Module.decode { strict := settings.strictBodies } data).mapError fun e =>
        .context file e.failure) :=
  (leaves_note _).silent_bind (leaves_attempt _)

theorem leaves_validateNamed (file : String) (l : Loaded) :
    Leaves (validateNamed file l) "" (l.module.validate.mapError (.context file)) :=
  leaves_attempt _

theorem leaves_verifyNamed (w : World) (file : String) (l : Loaded) :
    Leaves (verifyNamed w file l) ""
      ((w.engine.verify l.data (some l.module)).outcome.1.mapError fun e =>
        .context file (.report e.report)) :=
  (leaves_note _).silent_bind (leaves_attempt _)

variable (w : World) (line : Layer) (file : String)

theorem silent_load : Silent (load w line file) := by
  apply (leaves_attempt _).silent.bind
  intro settings
  apply (leaves_attempt _).silent.bind
  intro data
  apply (leaves_decodeNamed settings file data).silent.bind
  intro m
  exact (leaves_pure _).silent

theorem silent_check (l : Loaded) : Silent (check w file l) := by
  have hvalidate := (leaves_validateNamed file l).silent
  have hverify := (leaves_verifyNamed w file l).silent
  exact (hvalidate.when _).bind fun _ => hverify.when _

theorem leaves_printed {work : Session Unit} {printed : String}
    (h : Leaves work printed (.ok ())) :
    Leaves (do work; return Product.printed) printed (.ok .printed) := by
  rw [← String.append_empty (s := printed)]
  exact h.bind (leaves_pure Product.printed)

theorem printsLast_runDecode : PrintsLast (runDecode w line file) := by
  apply (silent_load w line file).bind_printsLast
  intro l
  apply (silent_check w file l).bind_printsLast
  intro _
  exact (leaves_printed (leaves_print _)).printsLast

theorem printsLast_runSummary : PrintsLast (runSummary w line file) := by
  apply (silent_load w line file).bind_printsLast
  intro l
  exact (leaves_printed (leaves_forM_print _)).printsLast

theorem printsLast_runBrowse : PrintsLast (runBrowse w line file) := by
  rw [runBrowse]
  split
  · apply (silent_load w line file).bind_printsLast
    intro l
    exact (leaves_pure _).printsLast
  · exact (leaves_attempt _).silent.printsLast

end Command

theorem Invocation.printsLast (w : World) (i : Invocation) : PrintsLast (i.session w) := by
  cases i with
  | help => exact (Command.leaves_printed (leaves_print _)).printsLast
  | run command line file =>
    cases command with
    | decode => exact Command.printsLast_runDecode w line file
    | summary => exact Command.printsLast_runSummary w line file
    | browse => exact Command.printsLast_runBrowse w line file

namespace World

variable {w : World} {args : List String}

theorem run_of_leaves {printed : String} {answer : Except Failure Product}
    (h : Leaves (w.session args) printed answer) :
    (w.run args).result = answer ∧ (w.run args).output = printed := by
  obtain ⟨hresult, houtput⟩ := h {}
  exact ⟨hresult, houtput.trans String.empty_append⟩

/-- Nothing is printed before a failure, whatever is asked for. -/
theorem output_of_error {f : Failure} (h : (w.run args).result = .error f) :
    (w.run args).output = "" := by
  have hlast : PrintsLast (w.session args) :=
    (leaves_attempt _).silent.bind_printsLast (Invocation.printsLast w)
  obtain ⟨printed, answer, hleaves, hprinted⟩ := hlast
  obtain ⟨hresult, houtput⟩ := run_of_leaves hleaves
  rw [houtput]
  exact hprinted f (hresult.symm.trans h)

end World

end WasmScope

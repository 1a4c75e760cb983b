import Mathlib.Control.Monad.Basic
import WasmScope.Engine.Reference
import WasmScope.Proofs.Command.Session

namespace WasmScope

/-- What a command goes through before it prints, in this order. -/
inductive Stage where
  | arguments
  | settings
  | file
  | decoding
  | validation
  | verification
deriving DecidableEq, Repr

def Stage.position : Stage → Nat
  | arguments => 0
  | settings => 1
  | file => 2
  | decoding => 3
  | validation => 4
  | verification => 5

open Session

namespace Command

/-- The command is the first word of the argument list that is no option and no value of one. -/
def Selected (command : Command) (args : List String) : Prop :=
  (Invocation.words args).head? = some command.name

def arguments (command : Command) (args : List String) : Except FlagError Arguments :=
  Arguments.parse command.flags (args.erase command.name)

inductive Asks (command : Command) (args : List String) : Layer → String → Prop
  | mk {assignments : List Assignment} {file : String}
      (parsed : command.arguments args = .ok ⟨assignments, [file]⟩) :
      Asks command args (.ofAssignments assignments) file

/-- The module that the command is to print: read from the file that the arguments name, under the
settings that they and the environment give. -/
structure Opens (w : World) (command : Command) (args : List String) (file : String)
    (settings : Settings) (data : List UInt8) (m : Module) : Prop where
  consolidated : ∃ line, command.Asks args line file ∧
    Settings.consolidate line w.environment = .ok settings
  read : (ModuleSource.file w.files file).read = .ok data
  decoded : Module.decode { strict := settings.strictBodies } data = .ok m

/-- The failures that each stage can end in. The last two stages belong to the listing only, and
each of them only where the settings ask for it. -/
inductive Fails (w : World) (command : Command) (args : List String) : Stage → Failure → Prop
  | flag {e : FlagError} (refused : command.arguments args = .error e) :
      Fails w command args .arguments (UsageError.flag e).failure
  | fileCount {a : Arguments} (parsed : command.arguments args = .ok a)
      (count : a.positional.length ≠ 1) :
      Fails w command args .arguments (UsageError.fileCount a.positional.length).failure
  | settings {line : Layer} {file : String} {e : SettingsError}
      (asked : command.Asks args line file)
      (refused : Settings.consolidate line w.environment = .error e) :
      Fails w command args .settings e.failure
  | file {line : Layer} {file : String} {f : Failure} (asked : command.Asks args line file)
      (unread : (ModuleSource.file w.files file).read = .error f) : Fails w command args .file f
  | decoding {line : Layer} {file : String} {settings : Settings} {data : List UInt8}
      {e : DecodeFailure} (asked : command.Asks args line file)
      (consolidated : Settings.consolidate line w.environment = .ok settings)
      (read : (ModuleSource.file w.files file).read = .ok data)
      (refused : Module.decode { strict := settings.strictBodies } data = .error e) :
      Fails w command args .decoding (.context file e.failure)
  | validation {file : String} {settings : Settings} {data : List UInt8} {m : Module} {f : Failure}
      (opened : Opens w command args file settings data m) (listing : command = .decode)
      (wanted : settings.validate = true) (refused : m.validate = .error f) :
      Fails w command args .validation (.context file f)
  | verification {file : String} {settings : Settings} {data : List UInt8} {m : Module}
      {e : VerifyFailure} (opened : Opens w command args file settings data m)
      (listing : command = .decode) (wanted : settings.verify = true)
      (refused : (w.engine.verify data (some m)).outcome.1 = .error e) :
      Fails w command args .verification (.context file (.report e.report))

/-- The module has passed the checks that the settings ask for. -/
structure Checked (w : World) (settings : Settings) (data : List UInt8) (m : Module) : Prop where
  valid : settings.validate = true → m.validate = .ok ()
  verified : settings.verify = true → (w.engine.verify data (some m)).outcome.1 = .ok ()

/-- What the command prints of a module: a YAML document, a listing, in colours on a terminal, or
the summary. -/
inductive Renders (w : World) (settings : Settings) (m : Module) : Command → String → Prop
  | yaml (format : settings.format = "yaml") : Renders w settings m .decode m.yaml
  | coloured (format : settings.format = "text") (terminal : w.terminal = true) :
      Renders w settings m .decode (m.text .terminal)
  | plain (format : settings.format = "text") (terminal : w.terminal = false) :
      Renders w settings m .decode (m.text .uncoloured)
  | summary : Renders w settings m .summary m.summary.text

variable {w : World} {command : Command} {args : List String} {line line' : Layer}
  {file file' : String} {settings settings' : Settings} {data data' : List UInt8} {m m' : Module}

def Passes (w : World) (command : Command) (args : List String) (stage : Stage) : Prop :=
  ∀ f, ¬ Fails w command args stage f

/-- No failure of any stage before this one. -/
def Reaches (w : World) (command : Command) (args : List String) (stage : Stage) : Prop :=
  ∀ earlier, earlier.position < stage.position → Passes w command args earlier

theorem reaches_arguments : Reaches w command args .arguments := nofun

theorem Reaches.next {stage : Stage} (h : Reaches w command args stage) (next : Stage)
    (hpasses : Passes w command args stage) (hnext : next.position = stage.position + 1) :
    Reaches w command args next := by
  intro earlier hlt
  by_cases heq : earlier = stage
  · rw [heq]
    exact hpasses
  · apply h
    have hne : earlier.position ≠ stage.position := by
      intro hposition
      apply heq
      cases earlier <;> cases stage <;> first | rfl | cases hposition
    omega

theorem Reaches.passes (h : Reaches w command args .verification)
    (hpasses : Passes w command args .verification) (stage : Stage) :
    Passes w command args stage := by
  cases stage with
  | arguments => exact h .arguments (by decide)
  | settings => exact h .settings (by decide)
  | file => exact h .file (by decide)
  | decoding => exact h .decoding (by decide)
  | validation => exact h .validation (by decide)
  | verification => exact hpasses

theorem Asks.unique (h : command.Asks args line file) (h' : command.Asks args line' file') :
    line = line' ∧ file = file' := by
  obtain ⟨parsed⟩ := h
  obtain ⟨parsed'⟩ := h'
  cases parsed.symm.trans parsed'
  exact ⟨rfl, rfl⟩

theorem Opens.unique (h : Opens w command args file settings data m)
    (h' : Opens w command args file' settings' data' m') :
    file = file' ∧ settings = settings' ∧ data = data' ∧ m = m' := by
  obtain ⟨⟨line, asked, consolidated⟩, read, decoded⟩ := h
  obtain ⟨⟨line', asked', consolidated'⟩, read', decoded'⟩ := h'
  obtain ⟨rfl, rfl⟩ := asked.unique asked'
  cases consolidated.symm.trans consolidated'
  cases read.symm.trans read'
  cases decoded.symm.trans decoded'
  exact ⟨rfl, rfl, rfl, rfl⟩

def Stops (w : World) (command : Command) (args : List String) (stage : Stage) : Prop :=
  ∃ f, Fails w command args stage f ∧ (w.run args).result = .error f

theorem named_name (command : Command) : named? command.name = some command := by
  cases command <;> rfl

theorem ofArgs_of_selected (h : command.Selected args) :
    Invocation.ofArgs args = Invocation.ofCommand command (args.erase command.name) := by
  rw [Selected] at h
  rw [Invocation.ofArgs]
  split
  · next hwords =>
    rw [hwords] at h
    cases h
  · next word rest hwords =>
    rw [hwords] at h
    cases h
    rw [named_name]

theorem Asks.passes (h : command.Asks args line file) : Passes w command args .arguments := by
  obtain ⟨parsed⟩ := h
  intro f hf
  cases hf with
  | flag refused => cases parsed.symm.trans refused
  | fileCount parsed' count =>
    cases parsed.symm.trans parsed'
    exact count rfl

theorem Stops.of_leaves {stage : Stage} {f : Failure} (h : Fails w command args stage f)
    (hleaves : Leaves (w.session args) "" (.error f)) : Stops w command args stage :=
  ⟨f, h, (World.run_of_leaves hleaves).1⟩

theorem leaves_session_of_error {e : UsageError} (h : Invocation.ofArgs args = .error e) :
    Leaves (w.session args) "" (.error e.failure) := by
  rw [World.session, h]
  exact (leaves_attempt _).bind_error _

theorem session_of_invocation {i : Invocation} (h : Invocation.ofArgs args = .ok i) :
    w.session args = i.session w := by
  rw [World.session, h]
  rfl

theorem arguments_stage (hselected : command.Selected args)
    (hhelp : ∀ a, command.arguments args = .ok a → a.asksForHelp = false) :
    Stops w command args .arguments ∨ ∃ line file, command.Asks args line file ∧
      w.session args = (Invocation.run command line file).session w := by
  have hofArgs := ofArgs_of_selected hselected
  rw [Invocation.ofCommand, ← arguments] at hofArgs
  cases hparsed : command.arguments args with
  | error e =>
    rw [hparsed] at hofArgs
    exact .inl (.of_leaves (.flag hparsed) (leaves_session_of_error hofArgs))
  | ok a =>
    obtain ⟨assignments, positional⟩ := a
    rw [hparsed] at hofArgs
    dsimp only at hofArgs
    rw [hhelp _ hparsed, if_neg Bool.false_ne_true] at hofArgs
    rcases positional with _ | ⟨file, _ | ⟨other, rest⟩⟩
    · exact .inl (.of_leaves (.fileCount hparsed nofun) (leaves_session_of_error hofArgs))
    · exact .inr ⟨_, file, ⟨hparsed⟩, session_of_invocation hofArgs⟩
    · exact .inl (.of_leaves (.fileCount hparsed nofun) (leaves_session_of_error hofArgs))

theorem leaves_of_load_error {f : Failure} (hcommand : command = .decode ∨ command = .summary)
    (h : Leaves (load w line file) "" (.error f)) :
    Leaves ((Invocation.run command line file).session w) "" (.error f) := by
  rcases hcommand with rfl | rfl
  · exact h.bind_error _
  · exact h.bind_error _

theorem load_of_settings (h : Settings.consolidate line w.environment = .ok settings) :
    load w line file = (do
      let data ← attempt (ModuleSource.file w.files file).read
      let module ← decodeNamed settings file data
      return ⟨settings, data, module⟩) := by
  rw [load, h]
  rfl

theorem load_of_read (hsettings : Settings.consolidate line w.environment = .ok settings)
    (hread : (ModuleSource.file w.files file).read = .ok data) :
    load w line file = (do
      let module ← decodeNamed settings file data
      return ⟨settings, data, module⟩) := by
  rw [load_of_settings hsettings, hread]
  rfl

section Loading

variable (hcommand : command = .decode ∨ command = .summary)
  (hrun : w.session args = (Invocation.run command line file).session w)
  (hasks : command.Asks args line file)

include hcommand hrun hasks

theorem settings_stage : Stops w command args .settings ∨ Passes w command args .settings ∧
    ∃ settings, Settings.consolidate line w.environment = .ok settings := by
  cases hsettings : Settings.consolidate line w.environment with
  | error e =>
    refine .inl (.of_leaves (.settings hasks hsettings) ?_)
    rw [hrun]
    apply leaves_of_load_error hcommand
    rw [load, hsettings]
    exact (leaves_attempt _).bind_error _
  | ok settings =>
    refine .inr ⟨fun f hf => ?_, settings, rfl⟩
    cases hf with
    | settings asked refused =>
      obtain ⟨rfl, rfl⟩ := hasks.unique asked
      cases hsettings.symm.trans refused

theorem file_stage (hsettings : Settings.consolidate line w.environment = .ok settings) :
    Stops w command args .file ∨ Passes w command args .file ∧
      ∃ data, (ModuleSource.file w.files file).read = .ok data := by
  cases hread : (ModuleSource.file w.files file).read with
  | error f =>
    refine .inl (.of_leaves (.file hasks hread) ?_)
    rw [hrun]
    apply leaves_of_load_error hcommand
    rw [load_of_settings hsettings, hread]
    exact (leaves_attempt _).bind_error _
  | ok data =>
    refine .inr ⟨fun f hf => ?_, data, rfl⟩
    cases hf with
    | file asked unread =>
      obtain ⟨rfl, rfl⟩ := hasks.unique asked
      cases hread.symm.trans unread

theorem decoding_stage (hsettings : Settings.consolidate line w.environment = .ok settings)
    (hread : (ModuleSource.file w.files file).read = .ok data) :
    Stops w command args .decoding ∨ Passes w command args .decoding ∧
      ∃ m, Opens w command args file settings data m ∧
        Leaves (load w line file) "" (.ok ⟨settings, data, m⟩) := by
  have hdecode := leaves_decodeNamed settings file data
  rw [load_of_read hsettings hread]
  cases hdecoded : Module.decode { strict := settings.strictBodies } data with
  | error e =>
    rw [hdecoded] at hdecode
    refine .inl (.of_leaves (.decoding hasks hsettings hread hdecoded) ?_)
    rw [hrun]
    apply leaves_of_load_error hcommand
    rw [load_of_read hsettings hread]
    exact hdecode.bind_error _
  | ok m =>
    rw [hdecoded] at hdecode
    refine .inr ⟨fun f hf => ?_, m, ⟨⟨line, hasks, hsettings⟩, hread, hdecoded⟩,
      hdecode.silent_bind (leaves_pure _)⟩
    cases hf with
    | decoding asked consolidated read refused =>
      obtain ⟨rfl, rfl⟩ := hasks.unique asked
      cases hsettings.symm.trans consolidated
      cases hread.symm.trans read
      cases hdecoded.symm.trans refused

end Loading

theorem leaves_check_of_invalid {l : Loaded} {f : Failure} (hwanted : l.settings.validate = true)
    (h : l.module.validate = .error f) :
    Leaves (check w file l) "" (.error (.context file f)) := by
  have hvalidate := leaves_validateNamed file l
  rw [h] at hvalidate
  rw [check, hwanted]
  exact hvalidate.bind_error _

theorem check_of_valid {l : Loaded} (h : l.settings.validate = true → l.module.validate = .ok ()) :
    check w file l = Session.when l.settings.verify (verifyNamed w file l) := by
  rw [check]
  cases hwanted : l.settings.validate with
  | false => rfl
  | true =>
    rw [validateNamed, h hwanted]
    rfl

theorem leaves_of_check_error {l : Loaded} {f : Failure}
    (hload : Leaves (load w line file) "" (.ok l)) (h : Leaves (check w file l) "" (.error f)) :
    Leaves ((Invocation.run .decode line file).session w) "" (.error f) :=
  hload.silent_bind (h.bind_error _)

section Checking

variable (hrun : w.session args = (Invocation.run .decode line file).session w)
  (hload : Leaves (load w line file) "" (.ok ⟨settings, data, m⟩))

include hrun hload

theorem validation_stage (hopens : Opens w .decode args file settings data m) :
    Stops w .decode args .validation ∨ Passes w .decode args .validation ∧
      (settings.validate = true → m.validate = .ok ()) := by
  by_cases hwanted : settings.validate = true
  · cases hvalid : m.validate with
    | error f =>
      refine .inl (.of_leaves (.validation hopens rfl hwanted hvalid) ?_)
      rw [hrun]
      exact leaves_of_check_error hload (leaves_check_of_invalid hwanted hvalid)
    | ok _ =>
      refine .inr ⟨fun f hf => ?_, fun _ => rfl⟩
      cases hf with
      | validation opened listing wanted refused =>
        obtain ⟨-, -, -, rfl⟩ := hopens.unique opened
        cases hvalid.symm.trans refused
  · refine .inr ⟨fun f hf => ?_, fun h => absurd h hwanted⟩
    cases hf with
    | validation opened listing wanted refused =>
      obtain ⟨-, rfl, -, -⟩ := hopens.unique opened
      exact hwanted wanted

theorem verification_stage (hopens : Opens w .decode args file settings data m)
    (hvalid : settings.validate = true → m.validate = .ok ()) :
    Stops w .decode args .verification ∨ Passes w .decode args .verification ∧
      (settings.verify = true → (w.engine.verify data (some m)).outcome.1 = .ok ()) := by
  by_cases hwanted : settings.verify = true
  · cases hverified : (w.engine.verify data (some m)).outcome.1 with
    | error e =>
      refine .inl (.of_leaves (.verification hopens rfl hwanted hverified) ?_)
      have hverify := leaves_verifyNamed w file ⟨settings, data, m⟩
      rw [hverified] at hverify
      rw [hrun]
      apply leaves_of_check_error hload
      rw [check_of_valid hvalid, hwanted]
      exact hverify
    | ok _ =>
      refine .inr ⟨fun f hf => ?_, fun _ => rfl⟩
      cases hf with
      | verification opened listing wanted refused =>
        obtain ⟨-, -, rfl, rfl⟩ := hopens.unique opened
        cases hverified.symm.trans refused
  · refine .inr ⟨fun f hf => ?_, fun h => absurd h hwanted⟩
    cases hf with
    | verification opened listing wanted refused =>
      obtain ⟨-, rfl, -, -⟩ := hopens.unique opened
      exact hwanted wanted

omit hrun in
theorem leaves_runDecode (hchecked : Checked w settings data m) :
    Leaves (runDecode w line file) (listing w ⟨settings, data, m⟩) (.ok .printed) := by
  have hcheck : Leaves (check w file ⟨settings, data, m⟩) "" (.ok ()) := by
    rw [check_of_valid hchecked.valid]
    cases hwanted : settings.verify with
    | false => exact leaves_pure ()
    | true =>
      have hverify := leaves_verifyNamed w file ⟨settings, data, m⟩
      rw [hchecked.verified hwanted] at hverify
      exact hverify
  exact hload.silent_bind (hcheck.silent_bind (leaves_printed (leaves_print _)))

omit hrun in
theorem leaves_runSummary : Leaves (runSummary w line file) m.summary.text (.ok .printed) := by
  rw [← Summary.join_pieces]
  exact hload.silent_bind (leaves_printed (leaves_forM_print _))

end Checking

theorem format_of_consolidate (h : Settings.consolidate line w.environment = .ok settings) :
    settings.format = "text" ∨ settings.format = "yaml" := by
  have hcheck : settings.check = none := by
    unfold Settings.consolidate at h
    split at h
    · next s hlayered =>
      cases h
      unfold Settings.layered at hlayered
      split at hlayered
      · cases hlayered
      · obtain ⟨rfl, hcheck⟩ := Prod.mk.inj hlayered
        exact hcheck
    · cases h
  unfold Settings.check at hcheck
  split at hcheck
  · cases hcheck
  · next hformat =>
    have hmem : settings.format ∈ Settings.formats := by simpa using hformat
    rcases List.mem_cons.1 hmem with htext | hyaml
    · exact .inl htext
    · exact .inr (List.mem_singleton.1 hyaml)

theorem renders_listing
    (h : settings.format = "text" ∨ settings.format = "yaml") :
    Renders w settings m .decode (listing w ⟨settings, data, m⟩) := by
  unfold listing
  dsimp only
  rcases h with htext | hyaml
  · rw [htext, if_neg (by decide)]
    split
    · next hterminal => exact .coloured htext hterminal
    · next hterminal => exact .plain htext (Bool.not_eq_true _ ▸ hterminal)
  · rw [hyaml, if_pos (by decide)]
    exact .yaml hyaml

theorem Stops.first {stage : Stage} (h : Stops w command args stage)
    (hreaches : Reaches w command args stage) :
    ∃ stage f, Fails w command args stage f ∧ Reaches w command args stage ∧
      (w.run args).result = .error f ∧ (w.run args).output = "" := by
  obtain ⟨f, hfails, hresult⟩ := h
  exact ⟨stage, f, hfails, hreaches, hresult, World.output_of_error hresult⟩

end Command

open Command in
/-- A command that prints the listing or the summary prints the whole rendering of the module that
it was asked for, no stage having failed, or it prints nothing and ends in the failure of the first
stage that fails. Only the listing makes the checks that the settings ask for. -/
theorem World.run_all_or_nothing {w : World} {command : Command} {args : List String}
    (hcommand : command = .decode ∨ command = .summary) (hselected : command.Selected args)
    (hhelp : ∀ a, command.arguments args = .ok a → a.asksForHelp = false) :
    (∃ file settings data m text, Opens w command args file settings data m ∧
      (command = .decode → Checked w settings data m) ∧ Renders w settings m command text ∧
      (∀ stage, Passes w command args stage) ∧
      (w.run args).result = .ok .printed ∧ (w.run args).output = text) ∨
    ∃ stage f, Fails w command args stage f ∧ Reaches w command args stage ∧
      (w.run args).result = .error f ∧ (w.run args).output = "" := by
  have hreaches : Reaches w command args .arguments := reaches_arguments
  obtain h | ⟨line, file, hasks, hrun⟩ := arguments_stage hselected hhelp
  · exact .inr (h.first hreaches)
  replace hreaches := hreaches.next .settings hasks.passes rfl
  obtain h | ⟨hpasses, settings, hsettings⟩ := settings_stage hcommand hrun hasks
  · exact .inr (h.first hreaches)
  replace hreaches := hreaches.next .file hpasses rfl
  obtain h | ⟨hpasses, data, hread⟩ := file_stage hcommand hrun hasks hsettings
  · exact .inr (h.first hreaches)
  replace hreaches := hreaches.next .decoding hpasses rfl
  obtain h | ⟨hpasses, m, hopens, hload⟩ := decoding_stage hcommand hrun hasks hsettings hread
  · exact .inr (h.first hreaches)
  replace hreaches := hreaches.next .validation hpasses rfl
  rcases hcommand with rfl | rfl
  · obtain h | ⟨hpasses, hvalid⟩ := validation_stage hrun hload hopens
    · exact .inr (h.first hreaches)
    replace hreaches := hreaches.next .verification hpasses rfl
    obtain h | ⟨hpasses, hverified⟩ := verification_stage hrun hload hopens hvalid
    · exact .inr (h.first hreaches)
    have hchecked : Checked w settings data m := ⟨hvalid, hverified⟩
    have hleaves := leaves_runDecode hload hchecked
    refine .inl ⟨file, settings, data, m, listing w ⟨settings, data, m⟩, hopens, fun _ => hchecked,
      renders_listing (format_of_consolidate hsettings), hreaches.passes hpasses, ?_⟩
    exact run_of_leaves (hrun ▸ hleaves)
  · have hunchecked {stage : Stage} (hstage : stage = .validation ∨ stage = .verification) :
        Passes w .summary args stage := by
      intro f hf
      rcases hstage with rfl | rfl
      · cases hf with
        | validation opened listing => cases listing
      · cases hf with
        | verification opened listing => cases listing
    replace hreaches := hreaches.next .verification (hunchecked (.inl rfl)) rfl
    have hleaves := leaves_runSummary hload
    refine .inl ⟨file, settings, data, m, _, hopens, nofun, .summary,
      hreaches.passes (hunchecked (.inr rfl)), ?_⟩
    exact run_of_leaves (hrun ▸ hleaves)

open Command in
/-- A function without a signature, where the command line asks for both checks: the module fails
either of them, and one failure is the answer. -/
theorem World.run_all_or_nothing_two_checks :
    let data : List UInt8 := [0x00, 0x61, 0x73, 0x6D, 1, 0, 0, 0, 0x03, 0x02, 0x01, 0x00]
    let w : World := ⟨⟨fun _ => .ok data⟩, fun _ => none, true, Engine.reference⟩
    let args := ["--log-level", "error", "decode", "--validate", "--verify", "a.wasm"]
    Command.decode.Selected args ∧
      (∀ a, Command.decode.arguments args = .ok a → a.asksForHelp = false) ∧
      ∃ stage f, Fails w .decode args stage f ∧ Reaches w .decode args stage ∧
        (w.run args).result = .error f ∧ (w.run args).output = "" := by
  intro data w args
  have hselected : Command.decode.Selected args := by
    rw [Selected]
    decide +kernel
  have hparsed : Command.decode.arguments args =
      .ok ⟨[.logLevel "error", .validate true, .verify true], ["a.wasm"]⟩ := by decide +kernel
  have hhelp : ∀ a, Command.decode.arguments args = .ok a → a.asksForHelp = false := by
    intro a ha
    cases hparsed.symm.trans ha
    rfl
  have hfailed : (w.run args).result.isOk = false := by decide +kernel
  refine ⟨hselected, hhelp, ?_⟩
  rcases run_all_or_nothing (.inl rfl) hselected hhelp with h | h
  · obtain ⟨_, _, _, _, text, _, _, _, _, hresult, _⟩ := h
    rw [hresult] at hfailed
    cases hfailed
  · exact h

open Command in
/-- The summary makes no checks: of a function without a signature it prints the counts, although
the environment asks for validation, which the module does not pass. -/
theorem World.run_summary_unchecked :
    let data : List UInt8 := [0x00, 0x61, 0x73, 0x6D, 1, 0, 0, 0, 0x03, 0x02, 0x01, 0x00]
    let w : World := ⟨⟨fun _ => .ok data⟩,
      fun name => if name = Variable.validate.name then some "true" else none, false,
      Engine.reference⟩
    let args := ["summary", "a.wasm"]
    Command.summary.Selected args ∧
      (∀ a, Command.summary.arguments args = .ok a → a.asksForHelp = false) ∧
      (w.run args).output = "version: 1\nsections: 1\n   0  function  1\ntypes: 0\n" ++
        "functions: 1\nexports: 0\nbodies: 0\ninstructions: 0\n" ∧
      ¬ ((∃ file settings data m text, Opens w .summary args file settings data m ∧
          Checked w settings data m ∧ Renders w settings m .summary text ∧
          (w.run args).result = .ok .printed ∧ (w.run args).output = text) ∨
        ∃ f, (w.run args).result = .error f) := by
  intro data w args
  have hselected : Command.summary.Selected args := by
    rw [Selected]
    decide +kernel
  have hparsed : Command.summary.arguments args = .ok ⟨[], ["a.wasm"]⟩ := by decide +kernel
  have hhelp : ∀ a, Command.summary.arguments args = .ok a → a.asksForHelp = false := by
    intro a ha
    cases hparsed.symm.trans ha
    rfl
  have hconsolidated : Settings.consolidate (.ofAssignments []) w.environment =
      .ok { validate := true } := by decide +kernel
  have hread : (ModuleSource.file w.files "a.wasm").read = .ok data := by decide +kernel
  have hdecoded : Module.decode { strict := false } data =
      .ok ⟨.magic, .version1, [.functions [0]]⟩ := by decide +kernel
  have hopens : Opens w .summary args "a.wasm" { validate := true } data
      ⟨.magic, .version1, [.functions [0]]⟩ := ⟨⟨_, ⟨hparsed⟩, hconsolidated⟩, hread, hdecoded⟩
  have hinvalid : Module.validate ⟨.magic, .version1, [.functions [0]]⟩ ≠ .ok () := by
    decide +kernel
  have hprinted : (w.run args).result.isOk = true := by decide +kernel
  refine ⟨hselected, hhelp, by decide +kernel, ?_⟩
  rintro (⟨_, _, _, _, _, hopens', hchecked, -⟩ | ⟨f, hresult⟩)
  · obtain ⟨-, rfl, -, rfl⟩ := hopens.unique hopens'
    exact hinvalid (hchecked.valid rfl)
  · rw [hresult] at hprinted
    cases hprinted

end WasmScope

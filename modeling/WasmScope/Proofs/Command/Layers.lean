import Mathlib.Control.Monad.Basic
import WasmScope.Command.Settings
import WasmScope.Proofs.Decode.Outcome

namespace WasmScope

def Failure.Reports (f : Failure) (phase : Phase) (kind : Kind) : Prop :=
  ∃ info, f.firstReport? = some info ∧ info.phase = phase ∧ info.kind = kind

namespace Variable

def flag : Variable → Flag
  | format => .format
  | logLevel => .logLevel
  | strictBodies => .strictBodies
  | validate => .validate
  | verify => .verify

def switches : List Variable := [strictBodies, validate, verify]

def assigned (environment : String → Option String) (v : Variable) : Option Assignment :=
  (environment v.name).bind v.assignment?

theorem mem_all (v : Variable) : v ∈ all := by
  cases v <;> decide

theorem flag_injective : Function.Injective flag := by
  intro u v h
  cases u <;> cases v <;> simp_all [flag]

theorem exists_flag {f : Flag} (h : f ∈ Flag.shared ++ Flag.listing) :
    ∃ v : Variable, v.flag = f := by
  cases f with
  | format => exact ⟨format, rfl⟩
  | logLevel => exact ⟨logLevel, rfl⟩
  | strictBodies => exact ⟨strictBodies, rfl⟩
  | validate => exact ⟨validate, rfl⟩
  | verify => exact ⟨verify, rfl⟩
  | help => exact absurd h (by decide)

theorem flag_of_assignment {v : Variable} {value : String} {x : Assignment}
    (h : v.assignment? value = some x) : x.flag = v.flag := by
  have hswitch {make : Bool → Assignment} {f : Flag} (hmake : ∀ on, (make on).flag = f)
      (h : (switchOf? value).map make = some x) : x.flag = f := by
    obtain ⟨on, -, rfl⟩ := Option.map_eq_some_iff.1 h
    exact hmake on
  cases v with
  | format => cases h; rfl
  | logLevel => cases h; rfl
  | strictBodies => exact hswitch (fun _ => rfl) h
  | validate => exact hswitch (fun _ => rfl) h
  | verify => exact hswitch (fun _ => rfl) h

theorem assignment_eq_none_iff {v : Variable} {value : String} :
    v.assignment? value = none ↔ v ∈ switches ∧ switchOf? value = none := by
  cases v <;> simp [assignment?, switches]

end Variable

namespace Settings

def get (s : Settings) : Variable → Assignment
  | .format => .format s.format
  | .logLevel => .logLevel s.logLevel
  | .strictBodies => .strictBodies s.strictBodies
  | .validate => .validate s.validate
  | .verify => .verify s.verify

end Settings

namespace Layer

def get? (l : Layer) : Variable → Option Assignment
  | .format => l.format.map .format
  | .logLevel => l.logLevel.map .logLevel
  | .strictBodies => l.strictBodies.map .strictBodies
  | .validate => l.validate.map .validate
  | .verify => l.verify.map .verify

theorem get?_empty (v : Variable) : empty.get? v = none := by
  cases v <;> rfl

theorem get?_assign (l : Layer) (x : Assignment) (v : Variable) :
    (l.assign x).get? v = if x.flag = v.flag then some x else l.get? v := by
  cases x <;> cases v <;> rfl

theorem get_applyTo (l : Layer) (base : Settings) (v : Variable) :
    (l.applyTo base).get v = (l.get? v).getD (base.get v) := by
  have hfield {α : Type} (make : α → Assignment) (o : Option α) (x : α) :
      make (o.getD x) = (o.map make).getD (make x) := by
    cases o <;> rfl
  cases v <;> exact hfield _ _ _

end Layer

/-- What the command line sets a setting to: the last value that its option is given. -/
def Arguments.given (a : Arguments) (v : Variable) : Option Assignment :=
  (a.assignments.filter (·.flag == v.flag)).getLast?

theorem Arguments.given_eq_none_iff (a : Arguments) (v : Variable) :
    a.given v = none ↔ v.flag ∉ a.changed := by
  rw [given, List.getLast?_eq_none_iff, List.filter_eq_nil_iff, changed, List.mem_eraseDups,
    List.mem_map]
  constructor
  · intro h hx
    obtain ⟨x, hx, hflag⟩ := hx
    exact h x hx (beq_iff_eq.2 hflag)
  · intro h x hx hflag
    exact h ⟨x, hx, beq_iff_eq.1 hflag⟩

namespace Layer

theorem get?_foldl_assign (l : Layer) (xs : List Assignment) (v : Variable) :
    (xs.foldl assign l).get? v = ((xs.filter (·.flag == v.flag)).getLast?).or (l.get? v) := by
  induction xs generalizing l with
  | nil => rfl
  | cons x xs ih =>
    rw [List.foldl_cons, ih, get?_assign, List.filter_cons]
    by_cases hflag : x.flag = v.flag
    · rw [if_pos hflag, if_pos (beq_iff_eq.2 hflag), List.getLast?_cons]
      cases (xs.filter (·.flag == v.flag)).getLast? <;> rfl
    · rw [if_neg hflag, if_neg (mt beq_iff_eq.1 hflag)]

theorem get?_ofAssignments (a : Arguments) (v : Variable) :
    (ofAssignments a.assignments).get? v = a.given v := by
  rw [ofAssignments, get?_foldl_assign, get?_empty, Option.or_none]
  rfl

variable {environment : String → Option String}

/-- Reading stops at a variable whose value is refused; where there is none, each variable that is
read sets its own setting. -/
theorem readVariables_cases (environment : String → Option String) (l : Layer)
    (vs : List Variable) :
    (∃ v ∈ vs, ∃ value l', environment v.name = some value ∧ v.assignment? value = none ∧
      readVariables environment l vs = (l', some (.badVariable v value))) ∨
    (∀ v ∈ vs, ∀ value, environment v.name = some value → v.assignment? value ≠ none) ∧
      ∃ l', readVariables environment l vs = (l', none) ∧
        ∀ v, l'.get? v = if v ∈ vs then (v.assigned environment).or (l.get? v) else l.get? v := by
  induction vs generalizing l with
  | nil => exact .inr ⟨nofun, l, rfl, fun v => by simp⟩
  | cons u vs ih =>
    rw [readVariables]
    cases hvalue : environment u.name with
    | none =>
      rcases ih l with ⟨v, hv, hrefused⟩ | ⟨haccepted, l', hl', hget⟩
      · exact .inl ⟨v, List.mem_cons_of_mem u hv, hrefused⟩
      · refine .inr ⟨List.forall_mem_cons.2 ⟨?_, haccepted⟩, l', hl', fun v => ?_⟩
        · intro value h
          cases hvalue.symm.trans h
        · by_cases hv : v = u
          · subst hv
            simp [hget, Variable.assigned, hvalue]
          · simp [hget, hv]
    | some value =>
      cases hx : u.assignment? value with
      | none => exact .inl ⟨u, List.mem_cons_self, value, l, hvalue, hx, by simp only [hx]⟩
      | some x =>
        have hflag := Variable.flag_of_assignment hx
        simp only [hx]
        rcases ih (l.assign x) with ⟨v, hv, hrefused⟩ | ⟨haccepted, l', hl', hget⟩
        · exact .inl ⟨v, List.mem_cons_of_mem u hv, hrefused⟩
        · refine .inr ⟨List.forall_mem_cons.2 ⟨?_, haccepted⟩, l', hl', fun v => ?_⟩
          · intro value' h
            cases hvalue.symm.trans h
            simp [hx]
          · by_cases hv : v = u
            · subst hv
              simp [hget, get?_assign, hflag, Variable.assigned, hvalue, hx]
            · have hother : x.flag ≠ v.flag :=
                fun h => hv (Variable.flag_injective (h.symm.trans hflag))
              simp [hget, get?_assign, hother, hv]

end Layer

theorem Flag.flag_of_assign {f : Flag} {value : String} {x : Assignment}
    (h : f.assign value = .ok x) : x.flag = f := by
  unfold assign at h
  cases f with
  | format => cases h; rfl
  | logLevel => cases h; rfl
  | _ =>
    dsimp only at h
    split at h
    · cases h
      rfl
    · cases h

def ArgReading.Within (known : List Flag) : ArgReading → Prop
  | positional => True
  | stop => True
  | complete xs => ∀ x ∈ xs, x.flag ∈ known
  | pending xs flag _ => (∀ x ∈ xs, x.flag ∈ known) ∧ flag ∈ known

namespace ArgReading

variable {known : List Flag} {r : ArgReading}

theorem within_assigned {f : Flag} {value : String} {done : List Assignment}
    (hf : f ∈ known) (hdone : ∀ x ∈ done, x.flag ∈ known)
    (h : (do let x ← f.assign value; pure (complete (done ++ [x]))) = Except.ok r) :
    r.Within known := by
  obtain ⟨x, hx, h⟩ := except_bind_eq_ok.1 h
  cases h
  refine List.forall_mem_append.2 ⟨hdone, List.forall_mem_singleton.2 ?_⟩
  rw [Flag.flag_of_assign hx]
  exact hf

theorem within_long {body : String} (h : long known body = .ok r) : r.Within known := by
  unfold long at h
  dsimp only at h
  split at h
  · cases h
    trivial
  · split at h
    · cases h
    · split at h
      · cases h
      · next f hf =>
        have hknown := List.mem_of_find?_eq_some hf
        have hnone : ∀ x ∈ ([] : List Assignment), x.flag ∈ known := nofun
        split at h
        · exact within_assigned hknown hnone h
        · split at h
          · exact within_assigned hknown hnone h
          · cases h
            exact ⟨hnone, hknown⟩

theorem within_letters {done : List Assignment} {letters : List Char}
    (hdone : ∀ x ∈ done, x.flag ∈ known) (h : ArgReading.letters known done letters = .ok r) :
    r.Within known := by
  induction letters generalizing done with
  | nil =>
    cases h
    exact hdone
  | cons c rest ih =>
    rw [ArgReading.letters] at h
    split at h
    · cases h
      exact hdone
    · split at h
      · cases h
      · next f hf =>
        have hknown := List.mem_of_find?_eq_some hf
        split at h
        · exact within_assigned hknown hdone h
        · split at h
          · obtain ⟨x, hx, h⟩ := except_bind_eq_ok.1 h
            refine ih (List.forall_mem_append.2 ⟨hdone, List.forall_mem_singleton.2 ?_⟩) h
            rw [Flag.flag_of_assign hx]
            exact hknown
          · split at h
            · cases h
              exact ⟨hdone, hknown⟩
            · exact within_assigned hknown hdone h

theorem within_ofArg {arg : String} (h : ofArg known arg = .ok r) : r.Within known := by
  unfold ofArg at h
  split at h
  · exact within_long h
  · exact within_letters (List.forall_mem_nil _) h
  · cases h
    trivial

end ArgReading

namespace Arguments

variable {known : List Flag} {a : Arguments}

theorem parseFrom_within {done : Arguments} {args : List String}
    (hdone : ∀ x ∈ done.assignments, x.flag ∈ known) (h : parseFrom known done args = .ok a) :
    ∀ x ∈ a.assignments, x.flag ∈ known := by
  induction hn : args.length using Nat.strongRecOn generalizing done args with
  | ind n ih =>
    cases args with
    | nil =>
      cases h
      exact hdone
    | cons arg rest =>
      have hshorter : rest.length < n := by
        rw [← hn, List.length_cons]
        exact Nat.lt_succ_self _
      rw [parseFrom] at h
      obtain ⟨r, hr, h⟩ := except_bind_eq_ok.1 h
      have hwithin := ArgReading.within_ofArg hr
      cases r with
      | positional =>
        have hkept : ∀ x ∈ (done.keep [arg]).assignments, x.flag ∈ known := hdone
        exact ih _ hshorter hkept h rfl
      | stop =>
        cases h
        exact hdone
      | complete xs =>
        have hmore : ∀ x ∈ (done.assign xs).assignments, x.flag ∈ known :=
          List.forall_mem_append.2 ⟨hdone, hwithin⟩
        exact ih _ hshorter hmore h rfl
      | pending xs f missing =>
        obtain ⟨hxs, hf⟩ := hwithin
        cases rest with
        | nil => cases h
        | cons value rest =>
          obtain ⟨x, hx, h⟩ := except_bind_eq_ok.1 h
          have hflag : x.flag ∈ known := by rwa [Flag.flag_of_assign hx]
          have hmore : ∀ y ∈ (done.assign (xs ++ [x])).assignments, y.flag ∈ known :=
            List.forall_mem_append.2 ⟨hdone,
              List.forall_mem_append.2 ⟨hxs, List.forall_mem_singleton.2 hflag⟩⟩
          exact ih _ (Nat.lt_of_succ_lt hshorter) hmore h rfl

theorem parse_within {args : List String} (h : parse known args = .ok a) :
    ∀ x ∈ a.assignments, x.flag ∈ known :=
  parseFrom_within (List.forall_mem_nil _) h

end Arguments

/-- Some variable of a switch is set to a text that is none of the words. -/
def Variable.Refused (environment : String → Option String) : Prop :=
  ∃ v ∈ switches, ∃ value, environment v.name = some value ∧ switchOf? value = none

def SettingsError.kind : SettingsError → Kind
  | badVariable _ _ => .invalidData
  | unknownFormat _ => .invalidInput
  | unknownLevel _ => .invalidInput

theorem SettingsError.firstReport?_failure (e : SettingsError) :
    ∃ info, e.failure.firstReport? = some info ∧ info.phase = .load ∧ info.kind = e.kind := by
  cases e <;> exact ⟨_, rfl, rfl, rfl⟩

theorem SettingsError.reports_iff {e : SettingsError} {kind : Kind} :
    e.failure.Reports .load kind ↔ e.kind = kind := by
  obtain ⟨info, hinfo, hphase, hkind⟩ := e.firstReport?_failure
  simp [Failure.Reports, hinfo, hphase, hkind]

namespace Settings

def IsLevel (word : String) : Prop := Text.lowerCase word ∈ levels

theorem check_cases (s : Settings) :
    (s.format ∉ formats ∧ s.check = some (.unknownFormat s.format)) ∨
      (s.format ∈ formats ∧ ¬ IsLevel s.logLevel ∧ s.check = some (.unknownLevel s.logLevel)) ∨
      (s.format ∈ formats ∧ IsLevel s.logLevel ∧ s.check = none) := by
  by_cases hformat : s.format ∈ formats
  · by_cases hlevel : Text.lowerCase s.logLevel ∈ levels
    · exact .inr (.inr ⟨hformat, hlevel, by simp [check, level, hformat, hlevel]⟩)
    · exact .inr (.inl ⟨hformat, hlevel, by simp [check, level, hformat, hlevel]⟩)
  · exact .inl ⟨hformat, by simp [check, hformat]⟩

theorem reports_of_check {s : Settings} {kind : Kind} :
    (∃ e, s.check = some e ∧ e.failure.Reports .load kind) ↔
      kind = .invalidInput ∧ (s.format ∉ formats ∨ ¬ IsLevel s.logLevel) := by
  simp only [SettingsError.reports_iff]
  rcases s.check_cases with ⟨hformat, hs⟩ | ⟨hformat, hlevel, hs⟩ | ⟨hformat, hlevel, hs⟩
  · simp [hs, hformat, SettingsError.kind, eq_comm]
  · simp [hs, hformat, hlevel, SettingsError.kind, eq_comm]
  · simp [hs, hformat, hlevel]

/-- Where a variable is refused the layers give nothing else; otherwise they are put over each other
setting by setting, and what comes out is checked. -/
theorem layered_cases (commandLine : Layer) (environment : String → Option String) :
    (Variable.Refused environment ∧
      ∃ s v value, layered commandLine environment = (s, some (.badVariable v value))) ∨
    (¬ Variable.Refused environment ∧ ∃ s, layered commandLine environment = (s, s.check) ∧
      ∀ v, s.get v =
        ((commandLine.get? v).or (v.assigned environment)).getD (Settings.get {} v)) := by
  unfold layered Layer.ofEnvironment
  rcases Layer.readVariables_cases environment .empty Variable.all with
    ⟨v, -, value, l, hvalue, hnone, hl⟩ | ⟨haccepted, l, hl, hget⟩
  · obtain ⟨hswitch, hrefused⟩ := Variable.assignment_eq_none_iff.1 hnone
    rw [hl]
    exact .inl ⟨⟨v, hswitch, value, hvalue, hrefused⟩, _, v, value, rfl⟩
  · rw [hl]
    refine .inr ⟨?_, _, rfl, fun v => ?_⟩
    · intro hrefused
      obtain ⟨v, hswitch, value, hvalue, hnone⟩ := hrefused
      exact haccepted v v.mem_all value hvalue
        (Variable.assignment_eq_none_iff.2 ⟨hswitch, hnone⟩)
    · rw [Layer.get_applyTo, Layer.get_applyTo, hget, if_pos v.mem_all, Layer.get?_empty,
        Option.or_none]
      cases commandLine.get? v <;> rfl

/-- The settings that an argument list and an environment give. Every option that the arguments set
is that of a setting. The environment is refused as a whole where some switch in it is set to no
word, whatever the arguments say. Otherwise each setting has the last value of its option, or else
that of its variable, or else its default, so that nothing but these two has an influence on it; and
the settings are refused for their format and, where that is known, for their level. -/
theorem layered_by_field {args : List String} {a : Arguments}
    (hargs : Arguments.parse (Flag.shared ++ Flag.listing) args = .ok a)
    (environment : String → Option String) :
    ∃ s error, layered (.ofAssignments a.assignments) environment = (s, error) ∧
      (∀ f ∈ a.changed, ∃ v : Variable, v.flag = f) ∧
      (∀ v : Variable, a.given v = none ↔ v.flag ∉ a.changed) ∧
      ((∃ e, error = some e ∧ e.failure.Reports .load .invalidData) ↔
        Variable.Refused environment) ∧
      (¬ Variable.Refused environment →
        (∀ v, s.get v = ((a.given v).or (v.assigned environment)).getD (Settings.get {} v)) ∧
        (∀ (a' : Arguments) environment' v, ¬ Variable.Refused environment' →
          a'.given v = a.given v → environment' v.name = environment v.name →
          (layered (.ofAssignments a'.assignments) environment').1.get v = s.get v) ∧
        ((∃ e, error = some e ∧ e.failure.Reports .load .invalidInput) ↔
          s.format ∉ formats ∨ ¬ IsLevel s.logLevel) ∧
        (s.format ∉ formats → error = some (.unknownFormat s.format)) ∧
        (s.format ∈ formats → ¬ IsLevel s.logLevel → error = some (.unknownLevel s.logLevel)) ∧
        (s.format ∈ formats → IsLevel s.logLevel → error = none)) := by
  have hchanged : ∀ f ∈ a.changed, ∃ v : Variable, v.flag = f := by
    intro f hf
    obtain ⟨x, hx, rfl⟩ := List.mem_map.1 (List.mem_eraseDups.1 hf)
    exact Variable.exists_flag (Arguments.parse_within hargs x hx)
  rcases layered_cases (.ofAssignments a.assignments) environment with
    ⟨hrefused, s, v, value, hs⟩ | ⟨haccepted, s, hs, hget⟩
  · refine ⟨s, _, hs, hchanged, a.given_eq_none_iff, iff_of_true ⟨_, rfl, ?_⟩ hrefused,
      absurd hrefused⟩
    exact SettingsError.reports_iff.2 rfl
  · have hfields (v : Variable) :
        s.get v = ((a.given v).or (v.assigned environment)).getD (Settings.get {} v) := by
      rw [hget, Layer.get?_ofAssignments]
    have hother (a' : Arguments) (environment' : String → Option String) (v : Variable)
        (haccepted' : ¬ Variable.Refused environment') (hgiven : a'.given v = a.given v)
        (hvariable : environment' v.name = environment v.name) :
        (layered (.ofAssignments a'.assignments) environment').1.get v = s.get v := by
      rcases layered_cases (.ofAssignments a'.assignments) environment' with
        ⟨hrefused, -⟩ | ⟨-, s', hs', hget'⟩
      · exact absurd hrefused haccepted'
      · rw [hs', hget', hfields, Layer.get?_ofAssignments, hgiven, Variable.assigned,
          Variable.assigned, hvariable]
    refine ⟨s, _, hs, hchanged, a.given_eq_none_iff, iff_of_false ?_ haccepted, fun _ =>
      ⟨hfields, hother, reports_of_check.trans (and_iff_right rfl), ?_⟩⟩
    · intro hreports
      exact absurd (reports_of_check.1 hreports).1 (by decide)
    · rcases s.check_cases with ⟨hformat, hs⟩ | ⟨hformat, hlevel, hs⟩ | ⟨hformat, hlevel, hs⟩
      · exact ⟨fun _ => hs, fun h => absurd h hformat, fun h => absurd h hformat⟩
      · exact ⟨absurd hformat, fun _ _ => hs, fun _ h => absurd h hlevel⟩
      · exact ⟨absurd hformat, fun _ h => absurd hlevel h, fun _ _ => hs⟩

/-- A text that is no word is refused although the arguments set the same switch; without it the
format of the arguments goes before that of the environment. -/
theorem layered_by_field_overridden :
    let args := ["--format=yaml", "--verify", "a.wasm"]
    let a : Arguments := ⟨[.format "yaml", .verify true], ["a.wasm"]⟩
    let environment (verify : Option String) : String → Option String := fun name =>
      if name = "WASMDECODE_FORMAT" then some "json"
      else if name = "WASMDECODE_VERIFY" then verify else none
    Arguments.parse (Flag.shared ++ Flag.listing) args = .ok a ∧
      (∃ e, (layered (.ofAssignments a.assignments) (environment (some "maybe"))).2 = some e ∧
        e.failure.Reports .load .invalidData) ∧
      ∃ s, layered (.ofAssignments a.assignments) (environment none) = (s, none) ∧
        s.get .format = .format "yaml" ∧ s.get .verify = .verify true := by
  intro args a environment
  have hargs : Arguments.parse (Flag.shared ++ Flag.listing) args = .ok a := by decide +kernel
  have hmaybe : Variable.Refused (environment (some "maybe")) :=
    ⟨.verify, by decide, "maybe", by decide, by decide⟩
  have hunset : ¬ Variable.Refused (environment none) := by
    rintro ⟨v, hv, value, hvalue, -⟩
    have hnone : ∀ v ∈ Variable.switches, environment none v.name = none := by decide
    cases hvalue.symm.trans (hnone v hv)
  obtain ⟨s, error, hs, -, -, hrefused, -⟩ := layered_by_field hargs (environment (some "maybe"))
  obtain ⟨s', error', hs', -, -, -, haccepted⟩ := layered_by_field hargs (environment none)
  obtain ⟨hfields, -, -, -, -, hknown⟩ := haccepted hunset
  have hformat : s'.get .format = .format "yaml" := (hfields .format).trans (by decide)
  have hlevel : s'.get .logLevel = .logLevel "warn" := (hfields .logLevel).trans (by decide)
  have hverify : s'.get .verify = .verify true := (hfields .verify).trans (by decide)
  have herror : error' = none := by
    apply hknown
    · rw [Assignment.format.inj hformat]
      decide
    · rw [Assignment.logLevel.inj hlevel, IsLevel]
      decide +kernel
  refine ⟨hargs, ?_, s', ?_, hformat, hverify⟩
  · rw [hs]
    exact hrefused.2 hmaybe
  · rw [hs', herror]

end Settings

end WasmScope

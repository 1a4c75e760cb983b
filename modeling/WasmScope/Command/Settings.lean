import WasmScope.Command.Flag
import WasmScope.Failure.Chain
import WasmScope.Text.LowerCase

namespace WasmScope

structure Settings where
  format : String := "text"
  logLevel : String := "warn"
  strictBodies : Bool := false
  validate : Bool := false
  verify : Bool := false
deriving DecidableEq, Repr

/-- Settings of which only some are given. -/
structure Layer where
  format : Option String := none
  logLevel : Option String := none
  strictBodies : Option Bool := none
  validate : Option Bool := none
  verify : Option Bool := none
deriving DecidableEq, Repr

namespace Layer

def empty : Layer := {}

def applyTo (l : Layer) (base : Settings) : Settings where
  format := l.format.getD base.format
  logLevel := l.logLevel.getD base.logLevel
  strictBodies := l.strictBodies.getD base.strictBodies
  validate := l.validate.getD base.validate
  verify := l.verify.getD base.verify

def assign (l : Layer) : Assignment → Layer
  | .format value => { l with format := some value }
  | .logLevel value => { l with logLevel := some value }
  | .strictBodies on => { l with strictBodies := some on }
  | .validate on => { l with validate := some on }
  | .verify on => { l with verify := some on }
  | .help _ => l

/-- The layer of the command line; of two values for an option the later one counts. -/
def ofAssignments (assignments : List Assignment) : Layer := assignments.foldl assign empty

end Layer

inductive Variable where
  | format
  | logLevel
  | strictBodies
  | validate
  | verify
deriving DecidableEq, Repr

namespace Variable

def name : Variable → String
  | format => "WASMDECODE_FORMAT"
  | logLevel => "WASMDECODE_LOG_LEVEL"
  | strictBodies => "WASMDECODE_STRICT_BODIES"
  | validate => "WASMDECODE_VALIDATE"
  | verify => "WASMDECODE_VERIFY"

def target : Variable → String
  | format => "Format"
  | logLevel => "LogLevel"
  | strictBodies => "StrictBodies"
  | validate => "Validate"
  | verify => "Verify"

def all : List Variable := [format, logLevel, strictBodies, validate, verify]

def assignment? (v : Variable) (value : String) : Option Assignment :=
  match v with
  | format => some (.format value)
  | logLevel => some (.logLevel value)
  | strictBodies => (switchOf? value).map .strictBodies
  | validate => (switchOf? value).map .validate
  | verify => (switchOf? value).map .verify

end Variable

inductive SettingsError where
  | badVariable (v : Variable) (value : String)
  | unknownFormat (format : String)
  | unknownLevel (level : String)
deriving DecidableEq, Repr

def SettingsError.failure : SettingsError → Failure
  | badVariable v value =>
    .load "environment" (some (.plain
      ("envconfig.Process: assigning " ++ v.name ++ " to " ++ v.target ++ ": converting '" ++ value
        ++ "' to type bool. details: " ++ switchComplaint value)))
  | unknownFormat format =>
    .report (.invalidInput .load ("unknown format " ++ Text.quoted format))
  | unknownLevel level =>
    .report (.invalidInput .load ("unknown log level " ++ Text.quoted level))

namespace Layer

def readVariables (environment : String → Option String) (l : Layer) :
    List Variable → Layer × Option SettingsError
  | [] => (l, none)
  | v :: rest =>
    match environment v.name with
    | none => readVariables environment l rest
    | some value =>
      match v.assignment? value with
      | some a => readVariables environment (l.assign a) rest
      | none => (l, some (.badVariable v value))

/-- The layer of the environment. A variable that is set counts even if it is empty. -/
def ofEnvironment (environment : String → Option String) : Layer × Option SettingsError :=
  readVariables environment empty Variable.all

end Layer

namespace Settings

def formats : List String := ["text", "yaml"]

def levels : List String :=
  ["debug", "info", "", "warn", "warning", "error", "dpanic", "panic", "fatal"]

def level (s : Settings) : String := Text.lowerCase s.logLevel

def logsAll (s : Settings) : Bool := s.level == "debug"

def check (s : Settings) : Option SettingsError :=
  if !formats.contains s.format then some (.unknownFormat s.format)
  else if !levels.contains s.level then some (.unknownLevel s.logLevel)
  else none

/-- The settings that the layers give, and what is wrong with them. Where a variable is refused, the
settings are those reached until then, and the command line is not looked at. -/
def layered (commandLine : Layer) (environment : String → Option String) :
    Settings × Option SettingsError :=
  match Layer.ofEnvironment environment with
  | (l, some e) => (l.applyTo {}, some e)
  | (l, none) =>
    let s := commandLine.applyTo (l.applyTo {})
    (s, s.check)

def consolidate (commandLine : Layer) (environment : String → Option String) :
    Except SettingsError Settings :=
  match layered commandLine environment with
  | (s, none) => .ok s
  | (_, some e) => .error e

end Settings

end WasmScope

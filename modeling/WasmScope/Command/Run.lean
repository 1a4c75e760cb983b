import WasmScope.Browser.Basic
import WasmScope.Command.Invocation
import WasmScope.Command.LogLine
import WasmScope.Command.Session
import WasmScope.Engine.Verify
import WasmScope.Listing.Document
import WasmScope.Listing.Summary
import WasmScope.Module.Validate
import WasmScope.Storage.Load

namespace WasmScope

/-- What the commands see of the world around them. -/
structure World where
  files : FileStore
  environment : String → Option String
  terminal : Bool
  engine : Engine

/-- What a command that succeeds ends with: all is printed, or a browser is to be shown. -/
inductive Product where
  | printed
  | browser (b : Browser)
deriving Repr

structure Outcome extends Console where
  result : Except Failure Product
deriving Repr

structure Loaded where
  settings : Settings
  data : List UInt8
  module : Module

namespace Command

def logText (s : Settings) (context : List (String × LogValue)) (log : Array Event) : String :=
  if s.logsAll then LogLine.renderAll context log else ""

def decodeNamed (s : Settings) (file : String) (data : List UInt8) : Session Module := do
  let (answer, log) := (Module.decodeLogged { strict := s.strictBodies } data).outcome
  Session.note (logText s [("file", .text file)] log)
  Session.attempt (answer.mapError fun f => .context file f.failure)

def validateNamed (file : String) (l : Loaded) : Session Unit :=
  Session.attempt (l.module.validate.mapError (.context file))

def verifyNamed (w : World) (file : String) (l : Loaded) : Session Unit := do
  let (answer, log) := (w.engine.verify l.data (some l.module)).outcome
  Session.note (logText l.settings [] log)
  Session.attempt (answer.mapError fun f => .context file (.report f.report))

def load (w : World) (commandLine : Layer) (file : String) : Session Loaded := do
  let settings ← Session.attempt
    ((Settings.consolidate commandLine w.environment).mapError (·.failure))
  let data ← Session.attempt (ModuleSource.file w.files file).read
  let module ← decodeNamed settings file data
  return ⟨settings, data, module⟩

/-- The checks that the settings ask for: indices and counts first, then the comparison with the
engine. -/
def check (w : World) (file : String) (l : Loaded) : Session Unit := do
  Session.when l.settings.validate (validateNamed file l)
  Session.when l.settings.verify (verifyNamed w file l)

def listing (w : World) (l : Loaded) : String :=
  if l.settings.format == "yaml" then l.module.yaml
  else l.module.text (if w.terminal then .terminal else .uncoloured)

def runDecode (w : World) (commandLine : Layer) (file : String) : Session Product := do
  let l ← load w commandLine file
  check w file l
  Session.print (listing w l)
  return .printed

def runSummary (w : World) (commandLine : Layer) (file : String) : Session Product := do
  let l ← load w commandLine file
  l.module.summary.pieces.forM Session.print
  return .printed

/-- The browser needs a terminal, whatever else may be wrong. -/
def runBrowse (w : World) (commandLine : Layer) (file : String) : Session Product :=
  if w.terminal then do
    let l ← load w commandLine file
    return .browser (.start file l.module)
  else throw (.report (.invalidInput .load "browse needs a terminal"))

def helpText : String :=
  "Decode WebAssembly binaries\n\n"
    ++ "Usage:\n  wasmdecode [command]\n\n"
    ++ "Available Commands:\n"
    ++ "  decode <file>   Print the decoded module\n"
    ++ "  summary <file>  Print section and entry counts\n"
    ++ "  browse <file>   Browse the module sections interactively\n\n"
    ++ "Flags:\n"
    ++ "  -h, --help               help for wasmdecode\n"
    ++ "      --log-level string   log level: debug, info, warn or error (default \"warn\")\n"
    ++ "      --strict-bodies      reject function bodies with trailing bytes\n\n"
    ++ "Flags of decode:\n"
    ++ "  -f, --format string   output format: text or yaml (default \"text\")\n"
    ++ "      --validate        check indices and counts after decoding\n"
    ++ "      --verify          compile the module with wazero and compare exports\n"

end Command

def Invocation.session (w : World) : Invocation → Session Product
  | help => do
    Session.print Command.helpText
    return .printed
  | run .decode commandLine file => Command.runDecode w commandLine file
  | run .summary commandLine file => Command.runSummary w commandLine file
  | run .browse commandLine file => Command.runBrowse w commandLine file

def World.session (w : World) (args : List String) : Session Product := do
  let invocation ← Session.attempt ((Invocation.ofArgs args).mapError (·.failure))
  invocation.session w

def World.run (w : World) (args : List String) : Outcome :=
  let (result, console) := (w.session args).run {}
  ⟨console, result⟩

end WasmScope

import WasmScope.Command.Settings
import WasmScope.Text.EditDistance

namespace WasmScope

inductive Command where
  | decode
  | summary
  | browse
deriving DecidableEq, Repr

namespace Command

def name : Command → String
  | decode => "decode"
  | summary => "summary"
  | browse => "browse"

def all : List Command := [decode, summary, browse]

def named? (word : String) : Option Command := all.find? (·.name == word)

def helpWords : List String := ["help", "completion"]

def offered : List String := all.map name ++ ["completion"]

def commonFlags : List Flag := Flag.shared ++ [.help]

def flags : Command → List Flag
  | decode => commonFlags ++ Flag.listing
  | summary => commonFlags
  | browse => commonFlags

/-- A word is taken for another that it begins or that is at most two edits away. -/
def resembles (word meant : String) : Bool :=
  let bytes := (Text.lowerCase word).toUTF8.toList
  decide (Text.editDistance bytes meant.toUTF8.toList ≤ 2) || bytes.isPrefixOf meant.toUTF8.toList

end Command

inductive UsageError where
  | flag (e : FlagError)
  | unknownCommand (word : String)
  | fileCount (n : Nat)
deriving DecidableEq, Repr

namespace UsageError

def suggestions (word : String) : String :=
  match Command.offered.filter (Command.resembles word) with
  | [] => ""
  | meant => "\n\nDid you mean this?\n" ++ String.join (meant.map fun w => "\t" ++ w ++ "\n")

def message : UsageError → String
  | flag e => e.message
  | unknownCommand word =>
    "unknown command " ++ Text.quoted word ++ " for \"wasmdecode\"" ++ suggestions word
  | fileCount n => "accepts 1 arg(s), received " ++ toString n

def failure (e : UsageError) : Failure := .plain e.message

end UsageError

inductive Invocation where
  | help
  | run (command : Command) (commandLine : Layer) (file : String)
deriving DecidableEq, Repr

/-- The last word on help counts. -/
def Arguments.asksForHelp (a : Arguments) : Bool :=
  a.assignments.foldl (fun asked b => match b with | .help on => on | _ => asked) false

namespace Invocation

/-- An option that takes the next argument for its value, as far as can be told before the command
is known: one that is written without a value and is no shared switch. -/
def takesNext (arg : String) : Bool :=
  match arg.toList with
  | '-' :: '-' :: body =>
    !body.contains '=' && !Flag.shared.any fun f => f.isSwitch && f.name == String.ofList body
  | ['-', c] => c != '=' && c.toNat < 0x80
  | _ => false

def words : List String → List String
  | [] => []
  | arg :: rest =>
    if arg == "--" then []
    else if takesNext arg then
      match rest with
      | _ :: rest => if rest.isEmpty then [] else words rest
      | [] => []
    else if arg == "" || arg.startsWith "-" then words rest
    else arg :: words rest

def helpOnly (args : List String) : Except UsageError Invocation :=
  match Arguments.parse Command.commonFlags args with
  | .error e => .error (.flag e)
  | .ok _ => .ok .help

def ofCommand (command : Command) (args : List String) : Except UsageError Invocation :=
  match Arguments.parse command.flags args with
  | .error e => .error (.flag e)
  | .ok a =>
    if a.asksForHelp then .ok .help
    else
      match a.positional with
      | [file] => .ok (.run command (.ofAssignments a.assignments) file)
      | others => .error (.fileCount others.length)

def ofArgs (args : List String) : Except UsageError Invocation :=
  match words args with
  | [] => helpOnly args
  | word :: _ =>
    match Command.named? word with
    | some command => ofCommand command (args.erase word)
    | none =>
      if Command.helpWords.contains word then helpOnly (args.erase word)
      else .error (.unknownCommand word)

end Invocation

end WasmScope

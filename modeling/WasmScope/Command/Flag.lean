import WasmScope.Command.Switch

namespace WasmScope

inductive Flag where
  | format
  | logLevel
  | strictBodies
  | validate
  | verify
  | help
deriving DecidableEq, Repr

namespace Flag

def name : Flag → String
  | format => "format"
  | logLevel => "log-level"
  | strictBodies => "strict-bodies"
  | validate => "validate"
  | verify => "verify"
  | help => "help"

def letter? : Flag → Option Char
  | format => some 'f'
  | help => some 'h'
  | _ => none

def isSwitch : Flag → Bool
  | format | logLevel => false
  | strictBodies | validate | verify | help => true

def spellings (f : Flag) : String :=
  match f.letter? with
  | some c => String.ofList ['-', c] ++ ", --" ++ f.name
  | none => "--" ++ f.name

def shared : List Flag := [logLevel, strictBodies]

def listing : List Flag := [format, validate, verify]

end Flag

inductive Assignment where
  | format (value : String)
  | logLevel (value : String)
  | strictBodies (on : Bool)
  | validate (on : Bool)
  | verify (on : Bool)
  | help (on : Bool)
deriving DecidableEq, Repr

def Assignment.flag : Assignment → Flag
  | format _ => .format
  | logLevel _ => .logLevel
  | strictBodies _ => .strictBodies
  | validate _ => .validate
  | verify _ => .verify
  | help _ => .help

inductive FlagError where
  | malformed (arg : String)
  | unknownName (name : String)
  | unknownLetter (letter : Char) (group : String)
  | missingValue (arg : String)
  | missingLetterValue (letter : Char) (group : String)
  | badSwitch (flag : Flag) (value : String)
  | helpWanted
deriving DecidableEq, Repr

namespace FlagError

/-- The first byte of a character's encoding, as a character. -/
def leadByte (c : Char) : Char :=
  match (String.singleton c).toUTF8.toList with
  | b :: _ => Char.ofNat b.toNat
  | [] => c

def message : FlagError → String
  | malformed arg => "bad flag syntax: " ++ arg
  | unknownName name => "unknown flag: --" ++ name
  | unknownLetter letter group =>
    "unknown shorthand flag: " ++ Text.quotedLetter (leadByte letter) ++ " in -" ++ group
  | missingValue arg => "flag needs an argument: " ++ arg
  | missingLetterValue letter group =>
    "flag needs an argument: " ++ Text.quotedLetter letter ++ " in -" ++ group
  | badSwitch flag value =>
    "invalid argument " ++ Text.quoted value ++ " for " ++ Text.quoted flag.spellings ++ " flag: "
      ++ switchComplaint value
  | helpWanted => "pflag: help requested"

end FlagError

namespace Flag

def assign (f : Flag) (value : String) : Except FlagError Assignment :=
  let switch (make : Bool → Assignment) : Except FlagError Assignment :=
    match switchOf? value with
    | some on => .ok (make on)
    | none => .error (.badSwitch f value)
  match f with
  | format => .ok (.format value)
  | logLevel => .ok (.logLevel value)
  | strictBodies => switch .strictBodies
  | validate => switch .validate
  | verify => switch .verify
  | help => switch .help

def switchOn (f : Flag) : Except FlagError Assignment := f.assign "true"

end Flag

/-- What one argument says before the next is looked at. -/
inductive ArgReading where
  | positional
  | stop
  | complete (assignments : List Assignment)
  /-- The next argument is the value of the option; there may be none. -/
  | pending (assignments : List Assignment) (flag : Flag) (missing : FlagError)
deriving DecidableEq, Repr

namespace ArgReading

def long (known : List Flag) (body : String) : Except FlagError ArgReading :=
  let chars := body.toList
  let name := String.ofList (chars.takeWhile (· != '='))
  match chars with
  | [] => .ok .stop
  | c :: _ =>
    if c == '-' || c == '=' then .error (.malformed ("--" ++ body))
    else
      match known.find? (·.name == name) with
      | none => .error (if name == "help" then .helpWanted else .unknownName name)
      | some flag =>
        match chars.dropWhile (· != '=') with
        | _ :: value => do
          let a ← flag.assign (String.ofList value)
          pure (.complete [a])
        | [] =>
          if flag.isSwitch then do
            let a ← flag.switchOn
            pure (.complete [a])
          else .ok (.pending [] flag (.missingValue ("--" ++ body)))

/-- Options by their letters, behind one dash. What stands behind the letter of an option with a
value is that value; an equals sign before the value is dropped. -/
def letters (known : List Flag) (done : List Assignment) : List Char → Except FlagError ArgReading
  | [] => .ok (.complete done)
  | c :: rest =>
    let group := String.ofList (c :: rest)
    if group.startsWith "test." then .ok (.complete done)
    else
      match known.find? (·.letter? == some c) with
      | none => .error (if c == 'h' then .helpWanted else .unknownLetter c group)
      | some flag =>
        match rest with
        | '=' :: v :: value => do
          let a ← flag.assign (String.ofList (v :: value))
          pure (.complete (done ++ [a]))
        | _ =>
          if flag.isSwitch then do
            let a ← flag.switchOn
            letters known (done ++ [a]) rest
          else if rest.isEmpty then .ok (.pending done flag (.missingLetterValue c group))
          else do
            let a ← flag.assign (String.ofList rest)
            pure (.complete (done ++ [a]))

def ofArg (known : List Flag) (arg : String) : Except FlagError ArgReading :=
  match arg.toList with
  | '-' :: '-' :: body => long known (String.ofList body)
  | '-' :: c :: rest => letters known [] (c :: rest)
  | _ => .ok .positional

end ArgReading

structure Arguments where
  assignments : List Assignment
  positional : List String
deriving DecidableEq, Repr

namespace Arguments

def assign (a : Arguments) (more : List Assignment) : Arguments :=
  { a with assignments := a.assignments ++ more }

def keep (a : Arguments) (more : List String) : Arguments :=
  { a with positional := a.positional ++ more }

def parseFrom (known : List Flag) (done : Arguments) : List String → Except FlagError Arguments
  | [] => .ok done
  | arg :: rest => do
    match ← ArgReading.ofArg known arg with
    | .positional => Arguments.parseFrom known (done.keep [arg]) rest
    | .stop => pure (done.keep rest)
    | .complete more => Arguments.parseFrom known (done.assign more) rest
    | .pending more flag missing =>
      match rest with
      | [] => throw missing
      | value :: rest => do
        let a ← flag.assign value
        Arguments.parseFrom known (done.assign (more ++ [a])) rest

def parse (known : List Flag) (args : List String) : Except FlagError Arguments :=
  Arguments.parseFrom known ⟨[], []⟩ args

/-- The options that were set, each where it was first set. -/
def changed (a : Arguments) : List Flag := (a.assignments.map Assignment.flag).eraseDups

end Arguments

end WasmScope

import WasmScope.Text.Aligned

namespace WasmScope

inductive Role where
  | plain
  | keyword
  | comment
  | name
deriving DecidableEq, Repr

structure Colour where
  red : Nat
  green : Nat
  blue : Nat
deriving DecidableEq, Repr

namespace Colour

def start (c : Colour) : String :=
  "\x1b[38;2;" ++ toString c.red ++ ";" ++ toString c.green ++ ";" ++ toString c.blue ++ "m"

def stop : String := "\x1b[0m"

end Colour

/-- The colours of the roles; a role without one is left as it is. -/
abbrev Theme := Role → Option Colour

namespace Theme

def uncoloured : Theme := fun _ => none

def terminal : Theme
  | .plain => none
  | .keyword => some ⟨135, 206, 235⟩
  | .comment => some ⟨102, 102, 102⟩
  | .name => some ⟨152, 251, 152⟩

end Theme

structure Part where
  role : Role
  text : String
deriving DecidableEq, Repr

def Part.render (theme : Theme) (p : Part) : String :=
  match theme p.role with
  | none => p.text
  | some colour => colour.start ++ p.text ++ Colour.stop

/-- Parts behind an indentation of two blanks a level. -/
structure Line where
  indent : Nat
  parts : List Part
deriving DecidableEq, Repr

namespace Line

def render (theme : Theme) (l : Line) : String :=
  Text.fill ' ' (2 * l.indent) ++ String.join (l.parts.map (·.render theme))

def plain (l : Line) : String := l.render .uncoloured

def renderAll (theme : Theme) (lines : List Line) : String :=
  String.join (lines.map fun l => l.render theme ++ "\n")

end Line

end WasmScope

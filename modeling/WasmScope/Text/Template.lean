import WasmScope.Text.Aligned
import WasmScope.Text.Hex
import WasmScope.Text.Quoted

namespace WasmScope.Text

inductive Argument where
  | int (n : Int)
  | text (s : String)
deriving DecidableEq, Repr

structure Placeholder where
  left : Bool := false
  zeros : Bool := false
  width : Nat := 0
deriving Repr

namespace Placeholder

def place (p : Placeholder) (s : String) : String :=
  if p.left then alignLeft p.width s
  else if p.zeros then zeroFilled p.width s
  else alignRight p.width s

/-- The digits of a number in their field; zeros go between the sign and the digits. -/
def placeNumber (p : Placeholder) (n : Int) (digits : String) : String :=
  let sign := if n < 0 then "-" else ""
  if p.zeros && !p.left then sign ++ zeroFilled (p.width - sign.length) digits
  else p.place (sign ++ digits)

end Placeholder

namespace Argument

/-- The argument with its type, for a placeholder that does not suit it. -/
def described : Argument → String
  | int n => "int=" ++ toString n
  | text s => "string=" ++ s

def letter (n : Int) : Char :=
  if 0 ≤ n ∧ n.toNat.isValidChar then Char.ofNat n.toNat else Char.ofNat 0xFFFD

def render (p : Placeholder) (verb : Char) : Argument → String
  | int n =>
    match verb with
    | 'd' | 'v' => p.placeNumber n (toString n.natAbs)
    | 'x' => p.placeNumber n (hexNat n.natAbs)
    | 'q' => p.place (quotedLetter (letter n))
    | _ => "%!" ++ verb.toString ++ "(int=" ++ p.placeNumber n (toString n.natAbs) ++ ")"
  | text s =>
    match verb with
    | 's' | 'v' => p.place s
    | 'q' => p.place (quoted s)
    | 'x' => p.place (hexBytes s.toUTF8.toList)
    | _ => "%!" ++ verb.toString ++ "(string=" ++ p.place s ++ ")"

end Argument

def leftOver (args : List Argument) : String :=
  if args.isEmpty then ""
  else "%!(EXTRA " ++ ", ".intercalate (args.map Argument.described) ++ ")"

mutual

/-- The text of a template, outside a placeholder. -/
def fillTemplate : List Char → List Argument → String
  | [], args => leftOver args
  | '%' :: rest, args => fillPlaceholder {} rest args
  | c :: rest, args => c.toString ++ fillTemplate rest args

def fillPlaceholder (p : Placeholder) : List Char → List Argument → String
  | [], args => "%!(NOVERB)" ++ leftOver args
  | '-' :: rest, args => fillPlaceholder { p with left := true, zeros := false } rest args
  | '0' :: rest, args =>
    if p.width == 0 then fillPlaceholder { p with zeros := !p.left } rest args
    else fillPlaceholder { p with width := p.width * 10 } rest args
  | '%' :: rest, args => "%" ++ fillTemplate rest args
  | c :: rest, args =>
    if c.isDigit then fillPlaceholder { p with width := p.width * 10 + (c.toNat - 48) } rest args
    else
      match args with
      | [] => "%!" ++ c.toString ++ "(MISSING)" ++ fillTemplate rest []
      | a :: more => a.render p c ++ fillTemplate rest more

end

def fillIn (template : String) (args : List Argument) : String :=
  fillTemplate template.toList args

end WasmScope.Text

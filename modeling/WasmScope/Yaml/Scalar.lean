import WasmScope.Text.Aligned
import WasmScope.Text.Hex
import WasmScope.Yaml.Resolve

namespace WasmScope.Yaml

def isBreak (c : Char) : Bool :=
  let n := c.toNat
  n == 0x0A || n == 0x0D || n == 0x85 || n == 0x2028 || n == 0x2029

def isBlank (c : Char) : Bool := c == ' ' || c.toNat == 0x09

def isPrintable (c : Char) : Bool :=
  let n := c.toNat
  n == 0x0A || (0x20 ≤ n && n ≤ 0x7E) || (0xA0 ≤ n && n ≤ 0xD7FF)
    || (0xE000 ≤ n && n ≤ 0xFFFD && n != 0xFEFF)

def startsBlank : List Char → Bool
  | [] => true
  | c :: _ => isBlank c

def hasPair (test : Char → Char → Bool) : List Char → Bool
  | c :: d :: rest => test c d || hasPair test (d :: rest)
  | _ => false

def hasBlankBreak (cs : List Char) : Bool := hasPair (fun c d => c == ' ' && isBreak d) cs

def hasBreakBlank (cs : List Char) : Bool := hasPair (fun c d => isBreak c && d == ' ') cs

def hasSpecial (cs : List Char) : Bool := cs.any fun c => c.toNat != 0x09 && !isPrintable c

def hasTab (cs : List Char) : Bool := cs.any fun c => c.toNat == 0x09

def openingMarks : List Char :=
  ['#', ',', '[', ']', Char.ofNat 0x7B, Char.ofNat 0x7D, '&', '*', '!', '|', '>',
    Char.ofNat 0x27, Char.ofNat 0x22, '%', '@', Char.ofNat 0x60]

/-- A colon before a blank or the end, or a hash behind a blank or a line break. -/
def hasInnerMark : List Char → Bool
  | c :: d :: rest =>
    (d == ':' && startsBlank rest)
      || (d == '#' && (isBlank c || isBreak c || c.toNat == 0))
      || hasInnerMark (d :: rest)
  | _ => false

/-- The text could be taken for a part of the document's own structure. -/
def hasMark (cs : List Char) : Bool :=
  (match cs with
    | '-' :: '-' :: '-' :: _ => true
    | '.' :: '.' :: '.' :: _ => true
    | c :: rest =>
      openingMarks.contains c || ((c == '?' || c == ':' || c == '-') && startsBlank rest)
    | [] => false)
  || hasInnerMark cs

def edgeBlank (cs : List Char) : Bool :=
  let bad (c : Char) := c == ' ' || isBreak c
  cs.head?.any bad || cs.getLast?.any bad

inductive Form where
  | plain
  | single
  | double
  | literal
deriving DecidableEq, Repr

/-- A text in single quotes may hold anything printable but blanks around line breaks. -/
def allowsSingle (cs : List Char) : Bool :=
  !hasBreakBlank cs && !hasBlankBreak cs && !hasTab cs && !hasSpecial cs

def allowsPlain (cs : List Char) : Bool :=
  allowsSingle cs && !edgeBlank cs && !cs.any isBreak && !hasMark cs

/-- A literal block may not end in a blank, nor a line of it. -/
def allowsLiteral (cs : List Char) : Bool :=
  cs.getLast? != some ' ' && !hasBlankBreak cs && !hasSpecial cs

def formOf (s : String) : Form :=
  let cs := s.toList
  if cs.contains '\n' then (if allowsLiteral cs then .literal else .double)
  else if isReserved s then .double
  else if allowsPlain cs then .plain
  else if allowsSingle cs then .single
  else .double

def capitalHex (width : Nat) (c : Char) : String :=
  Text.zeroFilled width (String.ofList ((Nat.toDigits 16 c.toNat).map Char.toUpper))

def escape (c : Char) : String :=
  match c.toNat with
  | 0x00 => "\\0"
  | 0x07 => "\\a"
  | 0x08 => "\\b"
  | 0x09 => "\\t"
  | 0x0A => "\\n"
  | 0x0B => "\\v"
  | 0x0C => "\\f"
  | 0x0D => "\\r"
  | 0x1B => "\\e"
  | 0x22 => "\\\""
  | 0x5C => "\\\\"
  | 0x85 => "\\N"
  | 0xA0 => "\\_"
  | 0x2028 => "\\L"
  | 0x2029 => "\\P"
  | n =>
    if n ≤ 0xFF then "\\x" ++ capitalHex 2 c
    else if n ≤ 0xFFFF then "\\u" ++ capitalHex 4 c
    else "\\U" ++ capitalHex 8 c

def standsAsIs (c : Char) : Bool := isPrintable c && !isBreak c && c != '"' && c != '\\'

def startsWithByteOrderMark (cs : List Char) : Bool := cs.head? == some '\uFEFF'

/-- A text in double quotes. Behind a byte order mark every character is escaped. -/
def doubleQuoted (cs : List Char) : String :=
  let marked := startsWithByteOrderMark cs
  let write (c : Char) := if standsAsIs c && !marked then c.toString else escape c
  "\"" ++ String.join (cs.map write) ++ "\""

/-- The characters of a block or quoted text; the first one behind a line break is indented. -/
def indented (indent : Nat) (write : Char → String) (afterBreak : Bool) : List Char → String
  | [] => ""
  | c :: rest =>
    (if afterBreak && !isBreak c then Text.fill ' ' indent else "")
      ++ write c ++ indented indent write (isBreak c) rest

def doubledQuote (c : Char) : String := if c.toNat == 0x27 then "''" else c.toString

def singleQuoted (indent : Nat) (cs : List Char) : String :=
  "'" ++ indented indent doubledQuote false cs ++ "'"

/-- What stands behind the bar of a literal block: the indentation where the text does not show it,
and a sign where it does not end in exactly one line break. -/
def literalHints (cs : List Char) : String :=
  (if cs.head?.any fun c => c == ' ' || isBreak c then "2" else "")
    ++ (match cs.reverse with
      | [] => "-"
      | [c] => if isBreak c then "+" else "-"
      | c :: d :: _ => if !isBreak c then "-" else if isBreak d then "+" else "")

/-- A literal block. Its first line starts on a line of its own, for which a line break at the start
of the text serves. -/
def literal (indent : Nat) (cs : List Char) : String :=
  "|" ++ literalHints cs
    ++ (if cs.head?.any isBreak then "" else "\n")
    ++ indented indent (·.toString) true cs

/-- The text of a string in a block, up to the end of its last line. `indent` is that of lines
after the first. -/
def scalarLine (indent : Nat) (s : String) : String :=
  let cs := s.toList
  match formOf s with
  | .plain => s ++ "\n"
  | .single => singleQuoted indent cs ++ "\n"
  | .double => doubleQuoted cs ++ "\n"
  | .literal => literal indent cs ++ (if cs.getLast?.any isBreak then "" else "\n")

end WasmScope.Yaml

namespace WasmScope.Yaml

def isDigit (c : Char) : Bool := '0' ≤ c && c ≤ '9'

def digitValue? (base : Nat) (c : Char) : Option Nat :=
  let n := c.toNat
  let v :=
    if isDigit c then n - 48
    else if 'a' ≤ c && c ≤ 'f' then n - 87
    else if 'A' ≤ c && c ≤ 'F' then n - 55
    else base
  if v < base then some v else none

def digits? (base value : Nat) : List Char → Option Nat
  | [] => some value
  | c :: rest =>
    match digitValue? base c with
    | none => none
    | some v => digits? base (value * base + v) rest

def number? (base : Nat) (cs : List Char) : Option Nat :=
  if cs.isEmpty then none else digits? base 0 cs

/-- An unsigned integer in the base that its start names: two, eight, sixteen, eight after a plain
zero, and else ten. -/
def magnitude? : List Char → Option Nat
  | '0' :: c :: d :: rest =>
    if c == 'b' || c == 'B' then number? 2 (d :: rest)
    else if c == 'o' || c == 'O' then number? 8 (d :: rest)
    else if c == 'x' || c == 'X' then number? 16 (d :: rest)
    else number? 8 (c :: d :: rest)
  | '0' :: rest => digits? 8 0 rest
  | cs => number? 10 cs

def isBelow (limit : Nat) : Option Nat → Bool
  | some n => n < limit
  | none => false

def isSigned (magnitude : List Char → Option Nat) : List Char → Bool
  | '+' :: cs => isBelow (1 <<< 63) (magnitude cs)
  | '-' :: cs => isBelow (1 <<< 63 + 1) (magnitude cs)
  | cs => isBelow (1 <<< 63) (magnitude cs)

/-- An integer of 64 bits, signed or not. After a binary or octal mark a sign is taken too. -/
def isInt (cs : List Char) : Bool :=
  isSigned magnitude? cs
  || isBelow (1 <<< 64) (magnitude? cs)
  || (match cs with
    | '0' :: 'b' :: rest => isSigned (number? 2) rest
    | '0' :: 'o' :: rest => isSigned (number? 8) rest
    | _ => false)

structure Decimal where
  whole : List Char
  fraction : List Char
  exponent : Int
deriving Repr

def exponent? : List Char → Option Int
  | [] => some 0
  | e :: cs =>
    if e == 'e' || e == 'E' then
      match cs with
      | '-' :: cs => (number? 10 cs).map fun n => -(n : Int)
      | '+' :: cs => (number? 10 cs).map fun n => (n : Int)
      | cs => (number? 10 cs).map fun n => (n : Int)
    else none

def decimal? (cs : List Char) : Option Decimal :=
  let whole := cs.takeWhile isDigit
  let (fraction, rest) :=
    match cs.dropWhile isDigit with
    | '.' :: after => (after.takeWhile isDigit, after.dropWhile isDigit)
    | rest => ([], rest)
  if whole.isEmpty && fraction.isEmpty then none
  else (exponent? rest).map fun exponent => ⟨whole, fraction, exponent⟩

def doubleLimit : Nat := 1 <<< 1024 - 1 <<< 970

/-- The number is finite in double precision. Beyond 309 digits before the point nothing is, up to
308 everything is. -/
def Decimal.isFinite (d : Decimal) : Bool :=
  let digits := (d.whole ++ d.fraction).dropWhile (· == '0')
  let places : Int := digits.length + d.exponent - d.fraction.length
  if digits.isEmpty || places < 309 then true
  else if 309 < places then false
  else
    let n := (number? 10 digits).getD 0
    let shift := d.exponent - d.fraction.length
    n * Nat.pow 10 shift.toNat < doubleLimit * Nat.pow 10 (-shift).toNat

def unsigned : List Char → List Char
  | '+' :: cs => cs
  | '-' :: cs => cs
  | cs => cs

def isFloat (cs : List Char) : Bool :=
  match decimal? (unsigned cs) with
  | some d => d.isFinite
  | none => false

def underscoresSeparate (afterDigit afterUnderscore : Bool) : List Char → Bool
  | [] => !afterUnderscore
  | c :: rest =>
    if isDigit c then underscoresSeparate true false rest
    else if c == '_' then afterDigit && underscoresSeparate false true rest
    else !afterUnderscore && underscoresSeparate false false rest

def isPointFloat (cs : List Char) : Bool :=
  underscoresSeparate false false cs && isFloat (cs.filter (· != '_'))

def shortNumber? : List Char → Option (Nat × List Char)
  | c :: d :: rest =>
    if isDigit c then
      if isDigit d then some ((c.toNat - 48) * 10 + (d.toNat - 48), rest)
      else some (c.toNat - 48, d :: rest)
    else none
  | [c] => if isDigit c then some (c.toNat - 48, []) else none
  | [] => none

def field? (limit : Nat) (mark : Char) (cs : List Char) : Option (Nat × List Char) :=
  match shortNumber? cs with
  | some (n, c :: rest) => if n < limit && c == mark then some (n, rest) else none
  | _ => none

def isLeapYear (y : Nat) : Bool := (y % 4 == 0 && y % 100 != 0) || y % 400 == 0

def daysIn (year month : Nat) : Nat :=
  if month == 2 then (if isLeapYear year then 29 else 28)
  else if month == 4 || month == 6 || month == 9 || month == 11 then 30
  else 31

def isZone (cs : List Char) : Bool :=
  match cs with
  | ['Z'] => true
  | [sign, h1, h2, ':', m1, m2] =>
    (sign == '+' || sign == '-') && isBelow 25 (number? 10 [h1, h2])
      && isBelow 61 (number? 10 [m1, m2])
  | _ => false

/-- A time of day and what stands behind it. A fraction is taken with any number of digits. -/
def timeOfDay? (cs : List Char) : Option (List Char) :=
  match field? 24 ':' cs with
  | none => none
  | some (_, cs) =>
    match field? 60 ':' cs with
    | none => none
    | some (_, cs) =>
      match shortNumber? cs with
      | none => none
      | some (second, cs) =>
        if 60 ≤ second then none
        else
          match cs with
          | mark :: d :: rest =>
            if (mark == '.' || mark == ',') && isDigit d then some (rest.dropWhile isDigit)
            else some cs
          | cs => some cs

/-- What may follow a date: nothing, a time with a zone behind a letter T, or a time without one
behind blanks. -/
def isTimeSuffix : List Char → Bool
  | [] => true
  | 'T' :: cs | 't' :: cs => (timeOfDay? cs).any isZone
  | ' ' :: cs => (timeOfDay? (cs.dropWhile (· == ' '))).any List.isEmpty
  | _ => false

def isTimestamp (cs : List Char) : Bool :=
  let year := cs.takeWhile isDigit
  match cs.dropWhile isDigit with
  | '-' :: rest =>
    year.length == 4 &&
    match field? 13 '-' rest with
    | none => false
    | some (month, rest) =>
      match shortNumber? rest with
      | none => false
      | some (day, rest) =>
        let y := (number? 10 year).getD 0
        1 ≤ month && 1 ≤ day && day ≤ daysIn y month && isTimeSuffix rest
  | _ => false

def reservedWords : List String :=
  ["", "~", "null", "Null", "NULL", "true", "True", "TRUE", "false", "False", "FALSE",
    ".nan", ".NaN", ".NAN", ".inf", ".Inf", ".INF", "+.inf", "+.Inf", "+.INF",
    "-.inf", "-.Inf", "-.INF"]

def olderBooleans : List String :=
  ["y", "Y", "yes", "Yes", "YES", "on", "On", "ON", "n", "N", "no", "No", "NO", "off", "Off", "OFF"]

def sexagesimalGroups : List Char → Bool
  | ':' :: c :: d :: rest =>
    if isDigit c then
      if isDigit d then c ≤ '5' && ends rest else ends (d :: rest)
    else false
  | [':', c] => isDigit c
  | _ => false
where
  ends : List Char → Bool
    | [] => true
    | '.' :: rest => rest.all fun c => isDigit c || c == '_'
    | ':' :: rest => sexagesimalGroups (':' :: rest)
    | _ => false

/-- A number in groups up to fifty-nine with colons between them. -/
def isSexagesimal (cs : List Char) : Bool :=
  match unsigned cs with
  | c :: rest => isDigit c && sexagesimalGroups (rest.dropWhile fun c => isDigit c || c == '_')
  | [] => false

/-- The plain text reads back as something other than a string. -/
def isReserved (s : String) : Bool :=
  reservedWords.contains s
  || (match s.toList with
    | [] => true
    | c :: rest =>
      let cs := c :: rest
      if c == '.' then isPointFloat cs
      else if isDigit c || c == '+' || c == '-' then
        let plain := cs.filter (· != '_')
        isTimestamp cs || isInt plain || isFloat plain
      else false)
  || olderBooleans.contains s
  || isSexagesimal s.toList

end WasmScope.Yaml

import WasmScope.Text.Cluster

namespace WasmScope.Text

def columns (s : String) : Nat := (clusters s).foldr (fun u n => u.columns + n) 0

def padColumns (width : Nat) (s : String) : String :=
  s ++ String.ofList (List.replicate (width - columns s) ' ')

/-- A line being broken: the lines before it, last first, the line so far, and the blanks and the
word behind it that are not yet placed. -/
structure Breaking where
  done : List String := []
  line : String := ""
  lineColumns : Nat := 0
  blanks : Nat := 0
  word : String := ""
  wordColumns : Nat := 0
deriving DecidableEq, Repr

namespace Breaking

def placeBlanks (b : Breaking) : Breaking :=
  { b with
    line := b.line ++ String.ofList (List.replicate b.blanks ' ')
    lineColumns := b.lineColumns + b.blanks
    blanks := 0 }

def placeWord (b : Breaking) : Breaking :=
  if b.word.isEmpty then b
  else
    let b := b.placeBlanks
    { b with
      line := b.line ++ b.word, lineColumns := b.lineColumns + b.wordColumns
      word := "", wordColumns := 0 }

def newLine (b : Breaking) : Breaking :=
  { b with done := b.line :: b.done, line := "", lineColumns := 0, blanks := 0 }

/-- One more cluster of a word. A word wider than a line is cut; one that only does not fit behind
the others goes to the next line. -/
def extendWord (limit : Nat) (b : Breaking) (u : Cluster) : Breaking :=
  let b := if limit < b.wordColumns + u.columns then b.placeWord else b
  let b := { b with word := b.word ++ u.text, wordColumns := b.wordColumns + u.columns }
  if limit < b.lineColumns + b.wordColumns + b.blanks then b.newLine else b

/-- A word ends before a blank, and behind a hyphen that fits on the line. -/
def add (limit : Nat) (b : Breaking) (u : Cluster) : Breaking :=
  if u.columns == 0 then { b with word := b.word ++ u.text }
  else if u.text == " " then
    let b := b.placeWord
    { b with blanks := b.blanks + 1 }
  else if u.text == "-" then
    let b := b.placeBlanks
    if b.lineColumns + b.wordColumns + 1 ≤ limit then
      let b := b.placeWord
      { b with line := b.line ++ "-", lineColumns := b.lineColumns + 1 }
    else b.extendWord limit u
  else b.extendWord limit u

def finish (limit : Nat) (b : Breaking) : List String :=
  let b :=
    if b.wordColumns == 0 then
      if b.lineColumns + b.blanks ≤ limit then b.placeBlanks else { b with blanks := 0 }
    else b
  let b := b.placeWord
  (b.line :: b.done).reverse

end Breaking

def brokenLines (limit : Nat) (s : String) : List String :=
  ((clusters s).foldl (Breaking.add limit) {}).finish limit

end WasmScope.Text

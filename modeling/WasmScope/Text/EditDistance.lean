namespace WasmScope.Text

variable {α : Type} [BEq α]

/-- The next row of the table of distances, behind its first entry. `corner`, `above` are entries of
the row before, and `left` is the entry last made. -/
def distanceRow (x : α) (left corner : Nat) : List α → List Nat → List Nat
  | y :: ys, up :: above =>
    let here := if x == y then corner else min (min left up) corner + 1
    here :: distanceRow x here up ys above
  | _, _ => []

/-- The table row by row: entry `j` of a row is the distance between what was read of the first
sequence and the first `j` elements of the second. -/
def distanceRows (ys : List α) (n : Nat) (row : List Nat) : List α → List Nat
  | [] => row
  | x :: xs =>
    match row with
    | [] => []
    | corner :: above =>
      distanceRows ys (n + 1) ((n + 1) :: distanceRow x (n + 1) corner ys above) xs

def editDistance (xs ys : List α) : Nat :=
  (distanceRows ys 0 (List.range (ys.length + 1)) xs).getLast?.getD 0

example : editDistance "decode".toList "decod".toList = 1 := by decide
example : editDistance "kitten".toList "sitting".toList = 3 := by decide
example : editDistance "".toList "abc".toList = 3 := by decide
example : editDistance "abc".toList "".toList = 3 := by decide

end WasmScope.Text

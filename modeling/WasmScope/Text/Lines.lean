namespace WasmScope.Text

/-- The pieces of a text between its line breaks, one more than there are breaks. -/
def splitLines (s : String) : List String := (s.toList.splitOn '\n').map String.ofList

def chomp (s : String) : String :=
  if s.toList.getLast? = some '\n' then String.ofList s.toList.dropLast else s

end WasmScope.Text

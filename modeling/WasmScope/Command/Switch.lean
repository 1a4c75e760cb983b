import WasmScope.Text.Quoted

namespace WasmScope

def onWords : List String := ["1", "t", "T", "TRUE", "true", "True"]

def offWords : List String := ["0", "f", "F", "FALSE", "false", "False"]

def switchOf? (text : String) : Option Bool :=
  if onWords.contains text then some true
  else if offWords.contains text then some false
  else none

def switchComplaint (text : String) : String :=
  "strconv.ParseBool: parsing " ++ Text.quoted text ++ ": invalid syntax"

end WasmScope

import WasmScope.Module.Basic

namespace WasmScope

/-- What verification asks of an engine: for bytes that it accepts, the exported functions by name
and signature. -/
structure Engine where
  exports? : List UInt8 → Option (List (String × FuncType))

def signatureOf? (exported : List (String × FuncType)) (name : String) : Option FuncType :=
  exported.lookup name

end WasmScope

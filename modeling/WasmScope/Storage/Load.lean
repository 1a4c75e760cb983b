import WasmScope.Decode.Module
import WasmScope.Failure.Chain
import WasmScope.Storage.FileStore

namespace WasmScope

inductive ModuleSource where
  | bytes (data : List UInt8)
  | file (store : FileStore) (path : String)

namespace ModuleSource

/-- The bytes of a file; an empty path and a missing file have reports of their own. -/
def read : ModuleSource → Except Failure (List UInt8)
  | bytes data => .ok data
  | file store path =>
    if path.isEmpty then .error (.report (.invalidInput .load "empty module path"))
    else
      match store.read path with
      | .ok data => .ok data
      | .error (.missing message) =>
        .error (.caused
          { phase := .load, kind := .notFound, path := [path], detail := "module file not found" }
          (.plain message))
      | .error (.unreadable message) => .error (.load ("read " ++ path) (some (.plain message)))

end ModuleSource

def Module.load (options : DecodeOptions) (source : Option ModuleSource) : Except Failure Module :=
  match source with
  | none => .error (.report (.invalidInput .load "nil source"))
  | some source =>
    match source.read with
    | .error f => .error f
    | .ok data => (decode options data).mapError DecodeFailure.failure

end WasmScope

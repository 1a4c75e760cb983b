import WasmScope.Browser.View
import WasmScope.Command.Run
import WasmScope.Engine.Reference

namespace WasmScope.Program

def fileOf? (args : List String) : Option String :=
  match Invocation.ofArgs args with
  | .ok (.run _ _ file) => some file
  | _ => none

def readFile (path : String) : IO (Except FileError (List UInt8)) := do
  try
    let data ← IO.FS.readBinFile path
    return .ok data.toList
  catch e =>
    match e with
    | .noFileOrDirectory .. =>
      return .error (.missing ("open " ++ path ++ ": no such file or directory"))
    | .inappropriateType .. => return .error (.unreadable ("read " ++ path ++ ": is a directory"))
    | .permissionDenied .. => return .error (.unreadable ("open " ++ path ++ ": permission denied"))
    | _ => return .error (.unreadable ("read " ++ path ++ ": input/output error"))

def environment : IO (List (String × String)) := do
  let values ← Variable.all.mapM fun v => do
    let value ← IO.getEnv v.name
    return (v.name, value)
  return values.filterMap fun (name, value?) => value?.map fun value => (name, value)

/-- Shows the browser and takes a key from each line of input until one of them ends it. -/
partial def browse (input output : IO.FS.Stream) (b : Browser) : IO Unit := do
  output.putStrLn b.view
  output.flush
  let line ← input.getLine
  unless line.isEmpty do
    let name := String.ofList (line.toList.filter (· != '\n'))
    let message : Message := .key (.named name)
    unless Browser.quits message do browse input output (b.update message)

end WasmScope.Program

open WasmScope in
def main (args : List String) : IO UInt32 := do
  let stdout ← IO.getStdout
  let stderr ← IO.getStderr
  let files : FileStore ←
    match Program.fileOf? args with
    | none => pure (FileStore.host [])
    | some path => do
      let result ← Program.readFile path
      pure ⟨fun p => if p == path then result else (FileStore.host []).read p⟩
  let settings ← Program.environment
  let terminal ← stdout.isTty
  let world : World := ⟨files, fun name => settings.lookup name, terminal, Engine.reference⟩
  let outcome := world.run args
  stderr.putStr outcome.log
  stdout.putStr outcome.output
  match outcome.result with
  | .ok .printed => return 0
  | .ok (.browser b) =>
    Program.browse (← IO.getStdin) stdout b
    return 0
  | .error f =>
    stderr.putStrLn ("Error: " ++ f.message)
    return 1

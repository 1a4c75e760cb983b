import WasmScope.Failure.Chain

namespace WasmScope

structure Console where
  output : String := ""
  log : String := ""
deriving Repr

/-- Work that writes and that may fail; what it has written by then stays written. -/
abbrev Session := ExceptT Failure (StateM Console)

namespace Session

def print (text : String) : Session Unit := fun c =>
  (.ok (), { c with output := c.output ++ text })

def note (text : String) : Session Unit := fun c => (.ok (), { c with log := c.log ++ text })

def attempt {α : Type} (answer : Except Failure α) : Session α := fun c => (answer, c)

def when (wanted : Bool) (work : Session Unit) : Session Unit := if wanted then work else pure ()

end Session

end WasmScope

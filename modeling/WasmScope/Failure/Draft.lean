import WasmScope.Failure.Chain
import WasmScope.Text.Template

namespace WasmScope

structure Draft where
  info : Report
  cause : Option Failure := none
deriving Repr

namespace Draft

def start (phase : Phase) (kind : Kind) : Draft := { info := { phase, kind } }

def path (d : Draft) (path : List String) : Draft := { d with info := { d.info with path } }

def offset (d : Draft) (offset : Int) : Draft := { d with info := { d.info with offset } }

def value (d : Draft) (value : Value) : Draft := { d with info := { d.info with value } }

def because (d : Draft) (cause : Failure) : Draft := { d with cause := some cause }

/-- Sets the detail. With arguments it is a template; without, it is taken as it stands. -/
def detail (d : Draft) (template : String) (args : List Text.Argument) : Draft :=
  let detail := if args.isEmpty then template else Text.fillIn template args
  { d with info := { d.info with detail } }

def build (d : Draft) : Failure := .ofReport d.info d.cause

end Draft

end WasmScope

import WasmScope.Browser.Viewport
import WasmScope.Listing.Text

namespace WasmScope

structure Browser where
  filename : String
  module : Module
  selected : Nat
  pane : Viewport
deriving Repr

inductive Key where
  | up
  | down
  | home
  | pageUp
  | pageDown
  | char (c : Char)
  | control (c : Char)
  | other (name : String)
deriving DecidableEq, Repr

inductive Message where
  | key (k : Key)
  | resize (width height : Int)
  | wheelUp
  | wheelDown
  | click
deriving DecidableEq, Repr

namespace Key

def named (name : String) : Key :=
  match name with
  | "up" => up
  | "down" => down
  | "home" => home
  | "pgup" => pageUp
  | "pgdown" => pageDown
  | _ =>
    match name.toList with
    | [c] => char c
    | ['c', 't', 'r', 'l', '+', c] => control c
    | _ => other name

end Key

namespace Viewport

def wheelLines : Nat := 3

/-- What a viewport does by itself: some keys scroll it, and so does the wheel. -/
def respond (v : Viewport) : Message → Viewport
  | .key .pageDown | .key (.char ' ') | .key (.char 'f') => v.down v.height
  | .key .pageUp | .key (.char 'b') => v.up v.height
  | .key (.char 'd') | .key (.control 'd') => v.down (v.height / 2)
  | .key (.char 'u') | .key (.control 'u') => v.up (v.height / 2)
  | .wheelUp => v.up wheelLines
  | .wheelDown => v.down wheelLines
  | _ => v

end Viewport

namespace Browser

def listWidth : Nat := 24

def chromeHeight : Nat := 4

def emptyText : String := "module has no sections"

def paneText (b : Browser) : String :=
  match b.module.sections[b.selected]? with
  | some s => s.text
  | none => emptyText

/-- Shows the selected section from its first line; where there is none, the pane is not moved. -/
def refresh (b : Browser) : Browser :=
  let pane := b.pane.setText b.paneText
  { b with pane := if b.module.sections.isEmpty then pane else pane.toTop }

def start (filename : String) (m : Module) : Browser :=
  refresh ⟨filename, m, 0, { width := 80 - listWidth, height := 24 - chromeHeight, lines := [] }⟩

def select (b : Browser) (index : Nat) : Browser := refresh { b with selected := index }

def selectPrevious (b : Browser) : Browser :=
  if 0 < b.selected then b.select (b.selected - 1) else b

def selectNext (b : Browser) : Browser :=
  if b.selected + 1 < b.module.sections.length then b.select (b.selected + 1) else b

def resize (b : Browser) (width height : Int) : Browser :=
  let paneWidth := max (width - listWidth - 2) 10
  let paneHeight := max (height - chromeHeight) 1
  { b with pane := b.pane.resize paneWidth.toNat paneHeight.toNat }

def quits : Message → Bool
  | .key (.char 'q') => true
  | .key (.control 'c') => true
  | _ => false

/-- One message. The list takes some keys for itself, a change of the size is made for the pane, and
the rest is up to how the pane responds. -/
def updateWith (respond : Viewport → Message → Viewport) (b : Browser) (message : Message) :
    Browser :=
  if quits message then b
  else
    match message with
    | .key .up | .key (.char 'k') => b.selectPrevious
    | .key .down | .key (.char 'j') => b.selectNext
    | .key .home | .key (.char 'g') => b.select 0
    | .resize width height =>
      let b := b.resize width height
      { b with pane := respond b.pane message }
    | _ => { b with pane := respond b.pane message }

def update (b : Browser) (message : Message) : Browser := b.updateWith Viewport.respond message

end Browser

end WasmScope

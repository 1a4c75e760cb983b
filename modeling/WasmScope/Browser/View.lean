import WasmScope.Browser.Basic
import WasmScope.Text.Aligned

namespace WasmScope.Browser

def listLine (b : Browser) (i : Nat) (s : Section) : String :=
  (if i == b.selected then "> " else "  ") ++ Text.alignRight 2 (toString i) ++ " "
    ++ Text.alignLeft 9 s.id.name ++ " (" ++ toString s.entries ++ ")"

def listLines (b : Browser) : List String :=
  (b.module.sections.mapIdx b.listLine ++ [""]).map (Text.padColumns listWidth)

def paneLines (b : Browser) : List String := b.pane.view.map ("│ " ++ ·)

/-- Two columns of text side by side; the shorter one goes on with blank lines of its width. -/
def beside (leftWidth rightWidth : Nat) (left right : List String) : List String :=
  let height := max left.length right.length
  let fillUp (width : Nat) (column : List String) : List String :=
    column ++ List.replicate (height - column.length) (Text.fill ' ' width)
  List.zipWith (· ++ ·) (fillUp leftWidth left) (fillUp rightWidth right)

def title (b : Browser) : String := " WASM Decode  " ++ b.filename

def helpLine : String := "↑/↓ select • pgup/pgdn scroll • q quit"

def body (b : Browser) : List String :=
  beside listWidth (b.pane.width + 2) b.listLines b.paneLines

def view (b : Browser) : String :=
  "\n".intercalate ([b.title, ""] ++ b.body ++ ["", helpLine])

end WasmScope.Browser

import WasmScope.Text.Columns
import WasmScope.Text.Lines

namespace WasmScope

structure Viewport where
  width : Nat
  height : Nat
  lines : List String
  /-- The number of lines above the first one shown. -/
  offset : Nat := 0
deriving DecidableEq, Repr

namespace Viewport

def maxOffset (v : Viewport) : Nat := v.lines.length - v.height

def goTo (v : Viewport) (offset : Nat) : Viewport := { v with offset := min offset v.maxOffset }

def toTop (v : Viewport) : Viewport := { v with offset := 0 }

def down (v : Viewport) (n : Nat) : Viewport :=
  if v.maxOffset ≤ v.offset || n == 0 then v else v.goTo (v.offset + n)

def up (v : Viewport) (n : Nat) : Viewport :=
  if v.offset == 0 || n == 0 then v else v.goTo (v.offset - n)

/-- Shows another text; the offset stays if there is a line at it. -/
def setText (v : Viewport) (text : String) : Viewport :=
  let v := { v with lines := Text.splitLines text }
  if v.lines.length - 1 < v.offset then v.goTo v.maxOffset else v

def resize (v : Viewport) (width height : Nat) : Viewport := { v with width, height }

def visible (v : Viewport) : List String := (v.lines.drop v.offset).take v.height

/-- The picture: as many lines as the viewport is high, each as wide as it is. Lines that are too
wide are broken, which may push others out of sight. -/
def view (v : Viewport) : List String :=
  let rows := (v.visible.flatMap (Text.brokenLines v.width)).take v.height
  (rows ++ List.replicate (v.height - rows.length) "").map (Text.padColumns v.width)

end Viewport

end WasmScope

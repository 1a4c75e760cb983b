import WasmScope.Text.CharClass

namespace WasmScope.Text

/-- What the end of a cluster says about the character behind it. -/
inductive ClusterEnd where
  | closed
  | plain
  | precedingSign
  | hangulLead
  | hangulVowel
  | hangulTail
  | pictograph
  | joinedPictograph
  | flagLetter
deriving DecidableEq, Repr

namespace ClusterEnd

def accepts (e : ClusterEnd) (k : CharClass) : Bool :=
  match e, k with
  | .closed, _ => false
  | _, .control => false
  | .precedingSign, _ => true
  | _, .extender | _, .joiner | _, .spacingMark => true
  | .hangulLead, .hangulLead | .hangulLead, .hangulVowel => true
  | .hangulLead, .hangulOpen | .hangulLead, .hangulClosed => true
  | .hangulVowel, .hangulVowel | .hangulVowel, .hangulTail => true
  | .hangulTail, .hangulTail => true
  | .joinedPictograph, .pictograph => true
  | .flagLetter, .flagLetter => true
  | _, _ => false

def first : CharClass → ClusterEnd
  | .control => .closed
  | .precedingSign => .precedingSign
  | .flagLetter => .flagLetter
  | .pictograph => .pictograph
  | .hangulLead => .hangulLead
  | .hangulVowel | .hangulOpen => .hangulVowel
  | .hangulTail | .hangulClosed => .hangulTail
  | .extender | .joiner | .spacingMark | .other => .plain

def add (e : ClusterEnd) (k : CharClass) : ClusterEnd :=
  match e, k with
  | .pictograph, .extender => .pictograph
  | .pictograph, .joiner => .joinedPictograph
  | .flagLetter, .flagLetter => .plain
  | _, k => first k

end ClusterEnd

def charColumns (k : CharClass) (c : Char) : Nat :=
  match k with
  | .control | .extender | .joiner => 0
  | .flagLetter => 2
  | .pictograph => if colourPictures.has c then 2 else 1
  | _ =>
    if c == '\u2E3A' then 3
    else if c == '\u2E3B' then 4
    else if wideChars.has c then 2
    else 1

structure Cluster where
  text : String
  columns : Nat
  lead : CharClass
  tail : ClusterEnd
deriving DecidableEq, Repr

namespace Cluster

/-- A cluster of one character. Plain characters take one column and are never added to. -/
def single (c : Char) : Cluster :=
  if c.toNat < 0x80 then ⟨c.toString, 1, .other, .closed⟩
  else
    let k := charClass c
    ⟨c.toString, charColumns k c, k, .first k⟩

/-- The columns with one more character. A variation selector behind a pictograph asks for the plain
or the coloured shape; flags and Hangul syllables are as wide as their first letter. -/
def columnsWith (u : Cluster) (c : Char) : Nat :=
  match u.lead with
  | .pictograph =>
    if c == '\uFE0E' then 1
    else if c == '\uFE0F' then 2
    else u.columns
  | .flagLetter | .hangulLead => u.columns
  | _ => u.columns + charColumns (charClass c) c

def push (u : Cluster) (c : Char) : Cluster :=
  { u with
    text := u.text.push c, columns := u.columnsWith c, tail := u.tail.add (charClass c) }

/-- The clusters of a text behind the beginning of one. -/
def split (u : Cluster) : List Char → List Cluster
  | [] => [u]
  | c :: rest =>
    if u.tail.accepts (charClass c) then (u.push c).split rest else u :: (single c).split rest

end Cluster

def clusters (s : String) : List Cluster :=
  match s.toList with
  | [] => []
  | c :: rest => (Cluster.single c).split rest

end WasmScope.Text

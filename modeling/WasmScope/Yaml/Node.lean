import WasmScope.Yaml.Scalar

namespace WasmScope

inductive Yaml where
  | int (n : Nat)
  | text (s : String)
  /-- Texts that need no quotes, in brackets on one line. -/
  | flow (items : List String)
  | seq (items : List Yaml)
  | map (fields : List (String × Yaml))
deriving Repr

namespace Yaml

mutual

def afterKey (indent : Nat) : Yaml → String
  | int n => " " ++ toString n ++ "\n"
  | text s => " " ++ scalarLine (indent + 2) s
  | flow items => " [" ++ ", ".intercalate items ++ "]\n"
  | seq [] => " []\n"
  | seq items => "\n" ++ itemLines (indent + 2) items
  | map fields => "\n" ++ fieldLines (indent + 2) (indent + 2) fields

def afterDash (indent : Nat) : Yaml → String
  | int n => toString n ++ "\n"
  | text s => scalarLine (indent + 2) s
  | flow items => "[" ++ ", ".intercalate items ++ "]\n"
  | seq items => itemLines (indent + 2) items
  | map fields => fieldLines 0 (indent + 2) fields

def itemLines (indent : Nat) : List Yaml → String
  | [] => ""
  | item :: rest =>
    Text.fill ' ' indent ++ "- " ++ afterDash indent item ++ itemLines indent rest

def fieldLines (first indent : Nat) : List (String × Yaml) → String
  | [] => ""
  | (key, value) :: rest =>
    Text.fill ' ' first ++ key ++ ":" ++ afterKey indent value ++ fieldLines indent indent rest

end

def document (fields : List (String × Yaml)) : String := fieldLines 0 0 fields

end Yaml

end WasmScope

import WasmScope.Text.Aligned
import WasmScope.Text.Hex
import WasmScope.Text.Printable

namespace WasmScope.Text

def codePoint (width : Nat) (c : Char) : String :=
  zeroFilled width (hexNat c.toNat)

def escape (c : Char) : String :=
  match c.toNat with
  | 0x07 => "\\a"
  | 0x08 => "\\b"
  | 0x0c => "\\f"
  | 0x0a => "\\n"
  | 0x0d => "\\r"
  | 0x09 => "\\t"
  | 0x0b => "\\v"
  | n =>
    if n < 0x20 || n == 0x7f then "\\x" ++ codePoint 2 c
    else if n < 0x10000 then "\\u" ++ codePoint 4 c
    else "\\U" ++ codePoint 8 c

def quotedChar (quote : Char) (c : Char) : String :=
  if c == quote || c == '\\' then String.ofList ['\\', c]
  else if isPrintable c then c.toString
  else escape c

def quoted (s : String) : String :=
  "\"" ++ String.join (s.toList.map (quotedChar '"')) ++ "\""

def quotedLetter (c : Char) : String :=
  "'" ++ quotedChar (Char.ofNat 0x27) c ++ "'"

end WasmScope.Text

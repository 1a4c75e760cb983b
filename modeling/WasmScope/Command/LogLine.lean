import WasmScope.Decode.Log
import WasmScope.Text.Aligned
import WasmScope.Text.Base64
import WasmScope.Text.Hex

namespace WasmScope.LogLine

def fieldChar (c : Char) : String :=
  if c == '\\' || c == '"' then String.ofList ['\\', c]
  else if c == '\n' then "\\n"
  else if c == '\r' then "\\r"
  else if c == '\t' then "\\t"
  else if c.toNat < 0x20 then "\\u" ++ Text.zeroFilled 4 (Text.hexNat c.toNat)
  else c.toString

def quoted (s : String) : String := "\"" ++ String.join (s.toList.map fieldChar) ++ "\""

def value : LogValue → String
  | .int n => toString n
  | .text s => quoted s
  | .bytes bs => quoted (Text.base64 bs)

def fieldText (f : String × LogValue) : String := quoted f.1 ++ ": " ++ value f.2

/-- The line of an event, with fields that stand before those of the event. -/
def render (context : List (String × LogValue)) (e : Event) : String :=
  "DEBUG\t" ++ e.message ++ "\t\x7b" ++ ", ".intercalate ((context ++ e.fields).map fieldText)
    ++ "\x7d\n"

def renderAll (context : List (String × LogValue)) (log : Array Event) : String :=
  String.join (log.toList.map (render context))

end WasmScope.LogLine

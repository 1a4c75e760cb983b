namespace WasmScope

/-- What has been stored, and how many bytes there is room for; without a limit, for all. -/
structure Sink where
  room : Option Nat
  stored : List UInt8 := []
deriving DecidableEq, Repr

namespace Sink

def unlimited : Sink := { room := none }

def limited (limit : Nat) : Sink := { room := some limit }

def fullMessage : String := "writer full"

/-- Writes a text; the answer is the number of bytes stored and whether all of them were. -/
def write (s : Sink) (text : String) : Sink × Nat × Bool :=
  let data := text.toByteArray.data.toList
  match s.room with
  | none => ({ s with stored := s.stored ++ data }, data.length, true)
  | some room =>
    if data.length ≤ room then
      (⟨some (room - data.length), s.stored ++ data⟩, data.length, true)
    else (⟨some 0, s.stored ++ data.take room⟩, room, false)

def writeAll (s : Sink) : List String → Sink × Nat × Bool
  | [] => (s, 0, true)
  | text :: rest =>
    match s.write text with
    | (s, n, false) => (s, n, false)
    | (s, n, true) =>
      let (s, more, ok) := s.writeAll rest
      (s, n + more, ok)

end Sink

end WasmScope

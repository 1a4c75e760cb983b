import WasmScope.Binary.Leb128
import WasmScope.Module.Basic

namespace WasmScope.Engine

abbrev Parser := StateT (List UInt8) Option

def refuse {α : Type} : Parser α := fun _ => none

def require (condition : Bool) : Parser Unit := fun input =>
  if condition then some ((), input) else none

def byte : Parser UInt8
  | [] => none
  | b :: rest => some (b, rest)

def take (n : Nat) : Parser (List UInt8) := fun input =>
  if holds n input = true then some (input.take n, input.drop n) else none

def measured {α : Type} (p : Parser α) : Parser (α × Nat) := fun input =>
  (p input).map fun (x, rest) => ((x, input.length - rest.length), rest)

def groups (bits : Nat) : Nat := (bits + 6) / 7

def unsigned (bits : Nat) : Parser Nat := fun input =>
  match Leb128.scan 0 0 input with
  | none => none
  | some s =>
    if s.count ≤ groups bits && s.value < 1 <<< bits then some (s.value, s.rest) else none

/-- The groups as a signed integer of the given width. The highest bit of the last group is the sign
unless the groups reach beyond the width. -/
def signedValue (bits : Nat) (s : Leb128.Scan) : Int :=
  let sign : Nat :=
    if 7 * s.count < bits && 64 ≤ s.last.toNat % 128 then 1 <<< (7 * s.count) else 0
  Int.bmod ((s.value : Int) - sign) (1 <<< bits)

/-- Bits of the last group beyond the width repeat the sign, except for the highest one, which is
free. -/
def repeatsSign (bits : Nat) (s : Leb128.Scan) : Bool :=
  let spare := 7 * groups bits - bits
  let range := 1 <<< (spare - 1)
  s.count < groups bits
    || s.last.toNat >>> (7 - spare) % range == (if signedValue bits s < 0 then range - 1 else 0)

def signed (bits : Nat) : Parser Int := fun input =>
  match Leb128.scan 0 0 input with
  | none => none
  | some s =>
    if s.count ≤ groups bits && repeatsSign bits s then some (signedValue bits s, s.rest) else none

def endAtFifth : List UInt8 → List UInt8
  | a :: b :: c :: d :: e :: rest => a :: b :: c :: d :: (e &&& 0x7F) :: rest
  | short => short

/-- A signed integer of 33 bits, which ends with its fifth byte whatever that byte says. -/
def s33 : Parser Int := fun input =>
  (signed 33 (endAtFifth input)).map fun (n, rest) =>
    (n, input.drop (input.length - rest.length))

def u32 : Parser Nat := unsigned 32

def expect (b : UInt8) : Parser Unit := do
  let got ← byte
  require (got == b)

def vector {α : Type} (element : Parser α) : Parser (List α) := do
  let count ← u32
  Reader.repeated (fun _ => element) count 0 []

def name : Parser String := do
  let length ← u32
  let data ← take length
  match String.fromUTF8? data.toByteArray with
  | some s => pure s
  | none => refuse

end WasmScope.Engine

namespace WasmScope.Text

def hexByte (b : UInt8) : String :=
  String.ofList [Nat.digitChar (b.toNat / 16), Nat.digitChar (b.toNat % 16)]

def hexBytes (bs : List UInt8) : String := String.join (bs.map hexByte)

def spacedHex (bs : List UInt8) : String := " ".intercalate (bs.map hexByte)

def hexNat (n : Nat) : String := String.ofList (Nat.toDigits 16 n)

end WasmScope.Text

namespace WasmScope.Text

def fill (c : Char) (n : Nat) : String := String.ofList (List.replicate n c)

def alignRight (width : Nat) (s : String) : String := fill ' ' (width - s.length) ++ s

def alignLeft (width : Nat) (s : String) : String := s ++ fill ' ' (width - s.length)

def zeroFilled (width : Nat) (s : String) : String := fill '0' (width - s.length) ++ s

end WasmScope.Text

import WasmScope.Binary.Leb128

namespace WasmScope.Output

def u32 (n : UInt32) : List UInt8 := Leb128.unsignedGroups 4 n.toNat

def s32 (n : Int32) : List UInt8 := Leb128.signedGroups 4 n.toInt

def length (n : Nat) : List UInt8 := u32 (UInt32.ofNat n)

/-- Bytes behind their length, the framing of sections and bodies. -/
def sized (data : List UInt8) : List UInt8 := length data.length ++ data

def name (s : String) : List UInt8 := sized s.toByteArray.data.toList

def vector {α : Type} (element : α → List UInt8) (xs : List α) : List UInt8 :=
  length xs.length ++ xs.flatMap element

end WasmScope.Output

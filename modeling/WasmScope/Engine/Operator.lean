import WasmScope.Engine.Types

namespace WasmScope.Engine

structure Operator where
  operands : List ValType
  results : List ValType
deriving DecidableEq, Repr

namespace Operator

def unary (t : ValType) : Operator := ⟨[t], [t]⟩
def binary (t : ValType) : Operator := ⟨[t, t], [t]⟩
def test (t : ValType) : Operator := ⟨[t], [.i32]⟩
def compare (t : ValType) : Operator := ⟨[t, t], [.i32]⟩
def convert (source target : ValType) : Operator := ⟨[source], [target]⟩

end Operator

abbrev OperatorTable := List (Nat × Nat × Operator)

def OperatorTable.find? (table : OperatorTable) (code : Nat) : Option Operator :=
  table.findSome? fun (lo, hi, op) => if lo ≤ code && code ≤ hi then some op else none

def numericOperators : OperatorTable := [
  (0x45, 0x45, .test .i32), (0x46, 0x4F, .compare .i32),
  (0x50, 0x50, .test .i64), (0x51, 0x5A, .compare .i64),
  (0x5B, 0x60, .compare .f32), (0x61, 0x66, .compare .f64),
  (0x67, 0x69, .unary .i32), (0x6A, 0x78, .binary .i32),
  (0x79, 0x7B, .unary .i64), (0x7C, 0x8A, .binary .i64),
  (0x8B, 0x91, .unary .f32), (0x92, 0x98, .binary .f32),
  (0x99, 0x9F, .unary .f64), (0xA0, 0xA6, .binary .f64),
  (0xA7, 0xA7, .convert .i64 .i32), (0xA8, 0xA9, .convert .f32 .i32),
  (0xAA, 0xAB, .convert .f64 .i32), (0xAC, 0xAD, .convert .i32 .i64),
  (0xAE, 0xAF, .convert .f32 .i64), (0xB0, 0xB1, .convert .f64 .i64),
  (0xB2, 0xB3, .convert .i32 .f32), (0xB4, 0xB5, .convert .i64 .f32),
  (0xB6, 0xB6, .convert .f64 .f32), (0xB7, 0xB8, .convert .i32 .f64),
  (0xB9, 0xBA, .convert .i64 .f64), (0xBB, 0xBB, .convert .f32 .f64),
  (0xBC, 0xBC, .convert .f32 .i32), (0xBD, 0xBD, .convert .f64 .i64),
  (0xBE, 0xBE, .convert .i32 .f32), (0xBF, 0xBF, .convert .i64 .f64),
  (0xC0, 0xC1, .unary .i32), (0xC2, 0xC4, .unary .i64)]

def saturatingOperators : OperatorTable := [
  (0, 1, .convert .f32 .i32), (2, 3, .convert .f64 .i32),
  (4, 5, .convert .f32 .i64), (6, 7, .convert .f64 .i64)]

/-- A memory access: the exponent of its natural alignment, its type, and the exponent from which on
a power of two does not fit the word it is computed in. -/
structure Access where
  align : Nat
  operator : Operator
  overflow : Nat := 63
deriving DecidableEq, Repr

/-- An alignment is at most the natural one. One that overflows counts as none. -/
def Access.allows (a : Access) (align : Nat) : Bool := align ≤ a.align || a.overflow ≤ align

def loadOf (t : ValType) (align : Nat) : Access := { align, operator := ⟨[.i32], [t]⟩ }
def storeOf (t : ValType) (align : Nat) : Access := { align, operator := ⟨[.i32, t], []⟩ }

def access? (code : Nat) : Option Access :=
  match code with
  | 0x28 => some (loadOf .i32 2)
  | 0x29 => some (loadOf .i64 3)
  | 0x2A => some (loadOf .f32 2)
  | 0x2B => some (loadOf .f64 3)
  | 0x2C | 0x2D => some (loadOf .i32 0)
  | 0x2E | 0x2F => some (loadOf .i32 1)
  | 0x30 | 0x31 => some (loadOf .i64 0)
  | 0x32 | 0x33 => some (loadOf .i64 1)
  | 0x34 | 0x35 => some (loadOf .i64 2)
  | 0x36 => some (storeOf .i32 2)
  | 0x37 => some (storeOf .i64 3)
  | 0x38 => some (storeOf .f32 2)
  | 0x39 => some (storeOf .f64 3)
  | 0x3A => some (storeOf .i32 0)
  | 0x3B => some (storeOf .i32 1)
  | 0x3C => some (storeOf .i64 0)
  | 0x3D => some (storeOf .i64 1)
  | 0x3E => some (storeOf .i64 2)
  | _ => none

def Access.inHalfWord (a : Access) : Access := { a with overflow := 32 }

def vectorAccess? (code : Nat) : Option Access :=
  let load (align : Nat) : Access := (loadOf v128 align).inHalfWord
  match code with
  | 0 => some (load 4)
  | 1 | 2 | 3 | 4 | 5 | 6 | 10 | 93 => some (load 3)
  | 7 => some (load 0)
  | 8 => some (load 1)
  | 9 | 92 => some (load 2)
  | 11 => some (storeOf v128 4)
  | _ => none

def laneAccess? (code : Nat) : Option (Access × Nat) :=
  let load (align : Nat) : Access :=
    { align, operator := ⟨[.i32, v128], [v128]⟩, overflow := 32 }
  let store (align : Nat) : Access := (storeOf v128 align).inHalfWord
  match code with
  | 84 => some (load 0, 16)
  | 85 => some (load 1, 8)
  | 86 => some (load 2, 4)
  | 87 => some (load 3, 2)
  | 88 => some (store 0, 16)
  | 89 => some (store 1, 8)
  | 90 => some (store 2, 4)
  | 91 => some (store 3, 2)
  | _ => none

def lane? (code : Nat) : Option (Operator × Nat) :=
  let extract (t : ValType) : Operator := ⟨[v128], [t]⟩
  let replace (t : ValType) : Operator := ⟨[v128, t], [v128]⟩
  match code with
  | 21 | 22 => some (extract .i32, 16)
  | 23 => some (replace .i32, 16)
  | 24 | 25 => some (extract .i32, 8)
  | 26 => some (replace .i32, 8)
  | 27 => some (extract .i32, 4)
  | 28 => some (replace .i32, 4)
  | 29 => some (extract .i64, 2)
  | 30 => some (replace .i64, 2)
  | 31 => some (extract .f32, 4)
  | 32 => some (replace .f32, 4)
  | 33 => some (extract .f64, 2)
  | 34 => some (replace .f64, 2)
  | _ => none

def shiftOperator : Operator := ⟨[v128, .i32], [v128]⟩

def vectorOperators : OperatorTable := [
  (14, 14, .binary v128), (15, 17, .convert .i32 v128), (18, 18, .convert .i64 v128),
  (19, 19, .convert .f32 v128), (20, 20, .convert .f64 v128), (35, 76, .binary v128),
  (77, 77, .unary v128), (78, 81, .binary v128), (82, 82, ⟨[v128, v128, v128], [v128]⟩),
  (83, 83, .test v128), (94, 98, .unary v128), (99, 100, .test v128), (101, 102, .binary v128),
  (103, 106, .unary v128), (107, 109, shiftOperator), (110, 115, .binary v128),
  (116, 117, .unary v128), (118, 121, .binary v128), (122, 122, .unary v128),
  (123, 123, .binary v128), (124, 129, .unary v128), (130, 130, .binary v128),
  (131, 132, .test v128), (133, 134, .binary v128), (135, 138, .unary v128),
  (139, 141, shiftOperator), (142, 147, .binary v128), (148, 148, .unary v128),
  (149, 153, .binary v128), (155, 159, .binary v128), (160, 161, .unary v128),
  (163, 164, .test v128), (167, 170, .unary v128), (171, 173, shiftOperator),
  (174, 174, .binary v128), (177, 177, .binary v128), (181, 186, .binary v128),
  (188, 191, .binary v128), (192, 193, .unary v128), (195, 196, .test v128),
  (199, 202, .unary v128), (203, 205, shiftOperator), (206, 206, .binary v128),
  (209, 209, .binary v128), (213, 223, .binary v128), (224, 225, .unary v128),
  (227, 227, .unary v128), (228, 235, .binary v128), (236, 237, .unary v128),
  (239, 239, .unary v128), (240, 247, .binary v128), (248, 255, .unary v128)]

end WasmScope.Engine

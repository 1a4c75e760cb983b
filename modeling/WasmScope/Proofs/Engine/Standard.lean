import WasmScope.Engine.Types
import WasmScope.Proofs.Grammar.Types

namespace WasmScope.Standard

/-- An unsigned integer of 32 bits in at most five groups. -/
def Index : Format UInt32 := fun bs n =>
  Leb128.Groups bs ∧ bs.length ≤ 5 ∧ Leb128.unsignedValue bs = n.toNat

theorem index_byte {b : UInt8} (h : b.toNat < 128) : Index [b] b.toUInt32 :=
  ⟨.last h, Nat.le_add_left 1 4, Nat.mod_eq_of_lt h⟩

inductive Vector {α : Type} (F : Format α) : Format (List α)
  | mk {front back : List UInt8} {n : UInt32} {xs : List α} (count : Index front n)
      (length : n.toNat = xs.length) (items : F.Many back xs) : Vector F (front ++ back) xs

inductive Name : Format String
  | mk {front : List UInt8} {n : UInt32} {s : String} (size : Index front n)
      (extent : n.toNat = s.toByteArray.data.toList.length) :
      Name (front ++ s.toByteArray.data.toList) s

inductive ValueType : Format ValType
  | mk {t : ValType} (valid : Engine.isValueType t = true) : ValueType [t.tag] t

inductive Signature : Format FuncType
  | mk {t : FuncType} {ps rs : List UInt8} (params : Vector ValueType ps t.params)
      (results : Vector ValueType rs t.results) : Signature (0x60 :: (ps ++ rs)) t

inductive Limits : List UInt8 → Prop
  | least {ls : List UInt8} {n : UInt32} (least : Index ls n) : Limits (0 :: ls)
  | range {ls ms : List UInt8} {n m : UInt32} (least : Index ls n) (most : Index ms m) :
      Limits (1 :: (ls ++ ms))

/-- What an import describes. Of functions it gives the type index; that is all that counts here. -/
inductive Item : Format (Option UInt32)
  | function {bs : List UInt8} {type : UInt32} (index : Index bs type) : Item (0 :: bs) (some type)
  | table {t : ValType} {bs : List UInt8} (element : Engine.isReference t = true)
      (limits : Limits bs) : Item (1 :: t.tag :: bs) none
  | memory {bs : List UInt8} (limits : Limits bs) : Item (2 :: bs) none
  | global {t : ValType} {flag : UInt8} (type : Engine.isValueType t = true)
      (mutability : flag = 0 ∨ flag = 1) : Item [3, t.tag, flag] none

inductive Import : Format (Option UInt32)
  | mk {ms ns ds : List UInt8} {moduleName name : String} {item : Option UInt32}
      (source : Name ms moduleName) (field : Name ns name) (description : Item ds item) :
      Import (ms ++ (ns ++ ds)) item

inductive Exported : Format Export
  | mk {e : Export} {ns is : List UInt8} (name : Name ns e.name) (kind : e.kind.code.toNat ≤ 3)
      (index : Index is e.index) : Exported (ns ++ e.kind.code :: is) e

structure Frame where
  id : UInt8
  content : List UInt8
deriving DecidableEq, Repr

inductive Frame.Written : Format Frame
  | mk {f : Frame} {front : List UInt8} {n : UInt32} (size : Index front n)
      (extent : n.toNat = f.content.length) : Written (f.id :: (front ++ f.content)) f

def order : List UInt8 := [1, 2, 3, 4, 5, 6, 7, 8, 9, 12, 10, 11]

/-- Custom sections, whose id is 0, stand anywhere; the others keep the order. -/
def Ordered (frames : List Frame) : Prop :=
  ((frames.map (·.id)).filter (· ≠ 0)).Sublist order

instance (frames : List Frame) : Decidable (Ordered frames) :=
  inferInstanceAs (Decidable (List.Sublist _ order))

/-- The entries of the section with an id. A section that is missing has none. -/
inductive Entries {α : Type} (frames : List Frame) (id : UInt8) (F : Format α) : List α → Prop
  | missing (none : ∀ f ∈ frames, f.id ≠ id) : Entries frames id F []
  | found {f : Frame} {xs : List α} (mem : f ∈ frames) (kind : f.id = id)
      (entries : Vector F f.content xs) : Entries frames id F xs

structure Module where
  types : List FuncType
  /-- The type indices of the imported functions, between other imports. -/
  imports : List (Option UInt32)
  functions : List UInt32
  exports : List Export
deriving DecidableEq, Repr

namespace Module

def functionSpace (M : Module) : List UInt32 := M.imports.filterMap id ++ M.functions

/-- Sections behind the magic bytes and version 1. -/
inductive Written : Format Module
  | mk {bs : List UInt8} {frames : List Frame} {M : Module}
      (framed : Format.Many Frame.Written bs frames) (ordered : Ordered frames)
      (types : Entries frames 1 Signature M.types) (imports : Entries frames 2 Import M.imports)
      (functions : Entries frames 3 Index M.functions)
      (exports : Entries frames 7 Exported M.exports) :
      Written (FourBytes.magic.toList ++ (FourBytes.version1.toList ++ bs)) M

/-- Functions have types, exported functions exist, and no name is exported twice. -/
structure Fits (M : Module) : Prop where
  typed : ∀ type ∈ M.functionSpace, type.toNat < M.types.length
  bounded : ∀ e ∈ M.exports, e.kind = .func → e.index.toNat < M.functionSpace.length
  distinct : (M.exports.map (·.name)).Nodup

def Exports (M : Module) (name : String) (t : FuncType) : Prop :=
  ∃ e ∈ M.exports, e.kind = .func ∧ e.name = name ∧
    ∃ type, M.functionSpace[e.index.toNat]? = some type ∧ M.types[type.toNat]? = some t

theorem Fits.signature {M : Module} (h : M.Fits) {e : Export} (he : e ∈ M.exports)
    (hkind : e.kind = .func) :
    ∃ type t, M.functionSpace[e.index.toNat]? = some type ∧ M.types[type.toNat]? = some t := by
  have hfunction := h.bounded e he hkind
  have htype := h.typed _ (List.getElem_mem hfunction)
  exact ⟨_, _, List.getElem?_eq_getElem hfunction, List.getElem?_eq_getElem htype⟩

end Module

/-- A valid module is in the data, and its exported functions are those in the list, with their
signatures and each by its own name. -/
def Reports (data : List UInt8) (exported : List (String × FuncType)) : Prop :=
  ∃ M, Module.Written data M ∧ M.Fits ∧ (exported.map Prod.fst).Nodup ∧
    ∀ name t, (name, t) ∈ exported ↔ M.Exports name t

end WasmScope.Standard

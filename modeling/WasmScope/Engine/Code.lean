import WasmScope.Engine.Operator

namespace WasmScope.Engine

inductive BlockOrigin where
  | function
  | block
  | loop
  | thenBranch
  | elseBranch
deriving DecidableEq, Repr

/-- An open block. An operand without a type stands for one of any type. -/
structure OpenBlock where
  origin : BlockOrigin
  params : List ValType
  results : List ValType
  operands : List (Option ValType)
  unreachable : Bool := false
deriving DecidableEq, Repr

def OpenBlock.labelTypes (b : OpenBlock) : List ValType :=
  if b.origin = .loop then b.params else b.results

/-- Code being checked: the bytes ahead and the open blocks, innermost first. -/
structure Checker where
  input : List UInt8
  blocks : List OpenBlock
deriving Repr

abbrev Check := StateT Checker Option

def reject {α : Type} : Check α := fun _ => none

def ensure (condition : Bool) : Check Unit := fun s => if condition then some ((), s) else none

def next {α : Type} (p : Parser α) : Check α := fun s =>
  match p s.input with
  | none => none
  | some (x, input) => some (x, { s with input })

def lookup {α : Type} (xs : List α) (index : Nat) : Check α :=
  match xs[index]? with
  | some x => pure x
  | none => reject

def innermost : Check OpenBlock := fun s =>
  match s.blocks with
  | [] => none
  | b :: _ => some (b, s)

def setInnermost (b : OpenBlock) : Check Unit := fun s =>
  match s.blocks with
  | [] => none
  | _ :: rest => some ((), { s with blocks := b :: rest })

def pushAny (t : Option ValType) : Check Unit := do
  let b ← innermost
  setInnermost { b with operands := t :: b.operands }

def push (t : ValType) : Check Unit := pushAny (some t)

def pushAll : List ValType → Check Unit
  | [] => pure ()
  | t :: rest => do
    push t
    pushAll rest

def popAny : Check (Option ValType) := do
  let b ← innermost
  match b.operands with
  | t :: operands => do
    setInnermost { b with operands }
    pure t
  | [] => if b.unreachable then pure none else reject

def pop (t : ValType) : Check Unit := do
  let got ← popAny
  ensure (got == none || got == some t)

def popReversed : List ValType → Check Unit
  | [] => pure ()
  | t :: rest => do
    pop t
    popReversed rest

def popAll (ts : List ValType) : Check Unit := popReversed ts.reverse

def apply (op : Operator) : Check Unit := do
  popAll op.operands
  pushAll op.results

def abandon : Check Unit := do
  let b ← innermost
  setInnermost { b with operands := [], unreachable := true }

def enter (origin : BlockOrigin) (type : FuncType) : Check Unit := fun s =>
  some ((), { s with blocks :=
    ⟨origin, type.params, type.results, type.params.reverse.map some, false⟩ :: s.blocks })

def leave : Check OpenBlock := do
  let b ← innermost
  popAll b.results
  let b' ← innermost
  ensure b'.operands.isEmpty
  fun s => some (b, { s with blocks := s.blocks.tail })

def label (index : Nat) : Check (List ValType) := fun s =>
  match s.blocks[index]? with
  | some b => some (b.labelTypes, s)
  | none => none

def functionResults : Check (List ValType) := fun s =>
  match s.blocks.getLast? with
  | some b => some (b.results, s)
  | none => none

def localType? : List (Nat × ValType) → Nat → Option ValType
  | [], _ => none
  | (count, t) :: rest, index => if index < count then some t else localType? rest (index - count)

def localType (locals : List (Nat × ValType)) : Check ValType := do
  let index ← next u32
  match localType? locals index with
  | some t => pure t
  | none => reject

/-- The signature of a block: none, one result or an entry of the types. A number below zero stands
for the tag with the same lowest seven bits. -/
def blockSignature (types : List FuncType) : Check FuncType := do
  let n ← next s33
  if 0 ≤ n then lookup types n.toNat
  else if n == -64 then pure ⟨[], []⟩
  else do
    let tag := (n + 128).toNat
    ensure (-128 ≤ n && isValueType ⟨tag.toUInt8⟩)
    pure ⟨[], [⟨tag.toUInt8⟩]⟩

def checkAccess (context : Context) (a : Access) : Check Unit := do
  let align ← next u32
  let _ ← next u32
  ensure (context.hasMemory && a.allows align)

def memoryIndex (context : Context) : Check Unit := do
  next (expect 0)
  ensure context.hasMemory

def laneIndex (lanes : Nat) : Check Unit := do
  let lane ← next byte
  ensure (lane.toNat < lanes)

/-- Labels of a branch table, which must agree in arity with its default. -/
def checkLabels (arity : Nat) : List Nat → Check Unit
  | [] => pure ()
  | index :: rest => do
    let types ← label index
    ensure (types.length == arity)
    let before ← get
    popAll types
    set before
    checkLabels arity rest

def branchTable : Check Unit := do
  let labels ← next (vector u32)
  let default ← next u32
  pop .i32
  let types ← label default
  checkLabels types.length labels
  popAll types
  abandon

def select (references : Bool) : Check Unit := do
  pop .i32
  let a ← popAny
  let b ← popAny
  ensure (references || !(a.any isReference) && !(b.any isReference))
  ensure (a == b || a == none || b == none)
  pushAny (if a == none then b else a)

/-- A choice that names a type. The type does not bind the operands. -/
def selectTyped : Check Unit := do
  next (expect 1)
  let _ ← next valType
  select true

/-- Instructions behind the byte 0xFC: saturating conversions, and bulk operations on memories and
tables. -/
def checkExtended (context : Context) : Check Unit := do
  let code ← next u32
  match saturatingOperators.find? code with
  | some op => apply op
  | none =>
    match code with
    | 8 => do
      let segment ← next u32
      memoryIndex context
      ensure (context.dataCount.any (segment < ·))
      popAll [.i32, .i32, .i32]
    | 9 => do
      let segment ← next u32
      ensure (context.dataCount.any (segment < ·))
    | 10 => do
      memoryIndex context
      memoryIndex context
      popAll [.i32, .i32, .i32]
    | 11 => do
      memoryIndex context
      popAll [.i32, .i32, .i32]
    | 12 => do
      let segment ← next u32
      let table ← next u32
      let element ← lookup context.elements segment
      let type ← lookup context.tables table
      ensure (element == type)
      popAll [.i32, .i32, .i32]
    | 13 => do
      let segment ← next u32
      let _ ← lookup context.elements segment
    | 14 => do
      let target ← next u32
      let source ← next u32
      let targetType ← lookup context.tables target
      let sourceType ← lookup context.tables source
      ensure (targetType == sourceType)
      popAll [.i32, .i32, .i32]
    | 15 => do
      let table ← next u32
      let type ← lookup context.tables table
      popAll [type, .i32]
      push .i32
    | 16 => do
      let table ← next u32
      let _ ← lookup context.tables table
      push .i32
    | 17 => do
      let table ← next u32
      let type ← lookup context.tables table
      popAll [.i32, type, .i32]
    | _ => reject

/-- Instructions behind the byte 0xFD, on vectors. Their codes are one byte. -/
def checkVector (context : Context) : Check Unit := do
  let lead ← next byte
  let code := lead.toNat
  match vectorAccess? code with
  | some a => do
    checkAccess context a
    apply a.operator
  | none =>
    match laneAccess? code with
    | some (a, lanes) => do
      checkAccess context a
      laneIndex lanes
      apply a.operator
    | none =>
      match lane? code with
      | some (op, lanes) => do
        laneIndex lanes
        apply op
      | none =>
        match vectorOperators.find? code with
        | some op => apply op
        | none =>
          match code with
          | 12 => do
            let _ ← next (take 16)
            push v128
          | 13 => do
            let lanes ← next (take 16)
            ensure (lanes.all (·.toNat < 32))
            apply (.binary v128)
          | _ => reject

/-- Checks one instruction; the answer is whether the function goes on. -/
def checkInstr (context : Context) (locals : List (Nat × ValType)) : Check Bool := do
  let code ← next byte
  match numericOperators.find? code.toNat with
  | some op => do
    apply op
    pure true
  | none =>
  match access? code.toNat with
  | some a => do
    checkAccess context a
    apply a.operator
    pure true
  | none =>
  match code with
  | 0x0B => do
    let b ← leave
    ensure (b.origin != .thenBranch || b.params == b.results)
    if b.origin == .function then pure false
    else do
      pushAll b.results
      pure true
  | _ => do
    match code with
    | 0x00 => abandon
    | 0x01 => pure ()
    | 0x02 => do
      let type ← blockSignature context.types
      popAll type.params
      enter .block type
    | 0x03 => do
      let type ← blockSignature context.types
      popAll type.params
      enter .loop type
    | 0x04 => do
      let type ← blockSignature context.types
      pop .i32
      popAll type.params
      enter .thenBranch type
    | 0x05 => do
      let b ← leave
      ensure (b.origin == .thenBranch)
      enter .elseBranch ⟨b.params, b.results⟩
    | 0x0C => do
      let index ← next u32
      let types ← label index
      popAll types
      abandon
    | 0x0D => do
      let index ← next u32
      pop .i32
      let types ← label index
      popAll types
      pushAll types
    | 0x0E => branchTable
    | 0x0F => do
      let types ← functionResults
      popAll types
      abandon
    | 0x10 => do
      let index ← next u32
      let type ← lookup context.functions index
      apply ⟨type.params, type.results⟩
    | 0x11 => do
      let index ← next u32
      let table ← next u32
      let type ← lookup context.types index
      let element ← lookup context.tables table
      ensure (element == .funcref)
      pop .i32
      apply ⟨type.params, type.results⟩
    | 0x1A => do
      let _ ← popAny
    | 0x1B => select false
    | 0x1C => selectTyped
    | 0x20 => do
      let t ← localType locals
      push t
    | 0x21 => do
      let t ← localType locals
      pop t
    | 0x22 => do
      let t ← localType locals
      apply (.unary t)
    | 0x23 => do
      let index ← next u32
      let global ← lookup context.globals index
      push global.type
    | 0x24 => do
      let index ← next u32
      let global ← lookup context.globals index
      ensure global.mutable
      pop global.type
    | 0x25 => do
      let index ← next u32
      let type ← lookup context.tables index
      apply ⟨[.i32], [type]⟩
    | 0x26 => do
      let index ← next u32
      let type ← lookup context.tables index
      popAll [.i32, type]
    | 0x3F => do
      memoryIndex context
      push .i32
    | 0x40 => do
      memoryIndex context
      apply (.unary .i32)
    | 0x41 => do
      let _ ← next (signed 32)
      push .i32
    | 0x42 => do
      let _ ← next (signed 64)
      push .i64
    | 0x43 => do
      let _ ← next (take 4)
      push .f32
    | 0x44 => do
      let _ ← next (take 8)
      push .f64
    | 0xD0 => do
      let t ← next refType
      push t
    | 0xD1 => do
      let t ← popAny
      ensure (t == none || t.any isReference)
      push .i32
    | 0xD2 => do
      let index ← next u32
      let _ ← lookup context.functions index
      ensure (context.references.contains index)
      push .funcref
    | 0xFC => checkExtended context
    | 0xFD => checkVector context
    | _ => reject
    pure true

def checkInstrs (context : Context) (locals : List (Nat × ValType)) : Nat → Check Unit
  | 0 => reject
  | fuel + 1 => do
    let more ← checkInstr context locals
    if more then checkInstrs context locals fuel else pure ()

structure Body where
  locals : List (Nat × ValType)
  code : List UInt8
deriving Repr

/-- Runs of declared locals, of which there may be fewer than 2^32 in all. -/
def localRuns : Parser (List (Nat × ValType)) := do
  let runs ← vector (do
    let count ← u32
    let type ← valType
    pure (count, type))
  require (runs.foldr (fun run n => run.1 + n) 0 < 0x100000000)
  pure runs

def functionBody : Parser Body := do
  let size ← u32
  let data ← take size
  match localRuns data with
  | none => refuse
  | some (locals, code) => do
    require (code.getLast? == some 0x0B)
    pure ⟨locals, code⟩

/-- The body fits a function of the given type. No body has more instructions than bytes. -/
def checkBody (context : Context) (type : FuncType) (body : Body) : Bool :=
  let locals := type.params.map (fun t => (1, t)) ++ body.locals
  let start : Checker := ⟨body.code, [⟨.function, [], type.results, [], false⟩]⟩
  match checkInstrs context locals body.code.length start with
  | some (_, s) => s.input.isEmpty
  | none => false

end WasmScope.Engine

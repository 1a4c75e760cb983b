import WasmScope.Decode.Expr
import WasmScope.Decode.Log
import WasmScope.Failure.Chain

namespace WasmScope

namespace Decode

inductive Place where
  | header
  | sectionSize
  | sectionData (id : SectionId)
  | content (id : SectionId)
  | body (index : Nat)
deriving DecidableEq, Repr

def Place.label : Place → String
  | header => "header"
  | sectionSize => "section size"
  | sectionData id => id.name ++ " section data"
  | content id => id.name ++ " section"
  | body index => "body " ++ toString index

end Decode

/-- A defect and the parts of the module around it, outermost first. -/
structure DecodeFailure where
  places : List Decode.Place
  defect : Defect
deriving DecidableEq, Repr

namespace DecodeFailure

def within (place : Decode.Place) (f : DecodeFailure) : DecodeFailure :=
  { f with places := place :: f.places }

def failure (f : DecodeFailure) : Failure :=
  f.places.foldr (fun place inner => .context place.label inner) (.report f.defect.report)

end DecodeFailure

structure DecodeOptions where
  strict : Bool := false
  maxNesting : Nat := 4096
deriving DecidableEq, Repr

namespace DecodeOptions

/-- Sets the nesting limit; a limit below one keeps the one there is. -/
def withMaxNesting (o : DecodeOptions) (limit : Int) : DecodeOptions :=
  if 0 < limit then { o with maxNesting := limit.toNat } else o

end DecodeOptions

namespace Decode

structure BodyRead where
  body : FuncBody
  trailing : Option (Nat × Nat)
deriving DecidableEq, Repr

def bodyContent (options : DecodeOptions) (size : UInt32) : Reader BodyRead := do
  let locals ← Reader.vector Reader.localEntry
  let body ← Reader.closedExpr { limit := options.maxNesting }
  fun rest =>
    if rest.unread.isEmpty then .ok (⟨⟨size, locals, body⟩, none⟩, rest)
    else if options.strict then
      .error (.trailingBytes rest.position rest.unread.length)
    else .ok (⟨⟨size, locals, body⟩, some (rest.position, rest.unread.length)⟩, rest)

def body (options : DecodeOptions) : Reader BodyRead := do
  let size ← Reader.u32
  let region ← Reader.region size.toNat
  match bodyContent options size region with
  | .error d => Reader.fail d
  | .ok (read, _) => pure read

def BodyRead.events (read : BodyRead) (index : Nat) : List Event :=
  (match read.trailing with
    | none => []
    | some (offset, count) => [.trailingBytes index offset count])
  ++ [.body index read.body.size read.body.locals.length read.body.body.length]

abbrev LoggedReader := StateT Cursor (Logged DecodeFailure)

def LoggedReader.lift {α : Type} (places : List Place) (r : Reader α) : LoggedReader α := fun c =>
  match r c with
  | .error defect => throw ⟨places, defect⟩
  | .ok p => pure p

def loggedBody (options : DecodeOptions) (index : Nat) : LoggedReader FuncBody := do
  let read ← LoggedReader.lift [.body index] (body options)
  StateT.lift (Logged.note (read.events index))
  pure read.body

/-- A section as it is framed: its id, where it starts, its declared size and its bytes. -/
structure SectionFrame where
  id : SectionId
  offset : Nat
  size : UInt32
  content : Cursor
deriving DecidableEq, Repr

def sectionFrame (id : SectionId) (offset : Nat) (c : Cursor) :
    Except DecodeFailure (SectionFrame × Cursor) :=
  match Reader.u32 c with
  | .error d => .error ⟨[.sectionSize], d⟩
  | .ok (size, c) =>
    match Reader.region size.toNat c with
    | .error d => .error ⟨[.sectionData id], d⟩
    | .ok (content, rest) => .ok (⟨id, offset, size, content⟩, rest)

/-- The contents of a section whose id is known, or `none`. -/
def sectionContent (options : DecodeOptions) (id : SectionId) : Option (LoggedReader Section) :=
  match id.byte with
  | 1 => some (.types <$> LoggedReader.lift [] (Reader.vector Reader.funcType))
  | 3 => some (.functions <$> LoggedReader.lift [] (Reader.vector Reader.u32))
  | 7 => some (.exports <$> LoggedReader.lift [] (Reader.vector Reader.exportEntry))
  | 10 => some do
    let count ← LoggedReader.lift [] Reader.u32
    let bodies ← Reader.repeated (loggedBody options) count.toNat 0 []
    pure (.code bodies)
  | _ => none

/-- Reads the contents of a framed section; what they leave over is ignored. -/
def SectionFrame.read (options : DecodeOptions) (frame : SectionFrame) :
    Logged DecodeFailure Section :=
  match sectionContent options frame.id with
  | none => throw ⟨[], .unknownSection frame.offset frame.id.byte⟩
  | some content => do
    Logged.note [.sectionStart frame.id frame.offset frame.size]
    ExceptT.adapt (·.within (.content frame.id)) (Prod.fst <$> content frame.content)

theorem sectionFrame_shortens {id : SectionId} {offset : Nat} {c rest : Cursor}
    {frame : SectionFrame} (h : sectionFrame id offset c = .ok (frame, rest)) :
    rest.unread.length < c.unread.length := by
  unfold sectionFrame at h
  split at h
  · cases h
  · next size c' h₁ =>
    split at h
    · cases h
    · next content rest' h₂ =>
      cases h
      obtain ⟨k, _, hk, rfl⟩ := Reader.advances_region _ _ _ _ h₂
      have := Reader.advances_u32.shortens h₁
      simp only [Cursor.unread_advance, List.length_drop]
      omega

def sections (options : DecodeOptions) (c : Cursor) (done : List Section) :
    Logged DecodeFailure (List Section) :=
  match hc : c.unread with
  | [] => pure done.reverse
  | id :: after =>
    match h : sectionFrame ⟨id⟩ c.position ⟨c.position + 1, after⟩ with
    | .error f => throw f
    | .ok (frame, rest) =>
      have : rest.unread.length < c.unread.length := by
        have := sectionFrame_shortens h
        simp only [hc, List.length_cons] at this ⊢
        omega
      do
        let s ← frame.read options
        sections options rest (s :: done)
termination_by c.unread.length

def fourBytes : Reader FourBytes := fun c =>
  match c.unread with
  | b0 :: b1 :: b2 :: b3 :: rest => .ok (⟨b0, b1, b2, b3⟩, ⟨c.position + 4, rest⟩)
  | _ => .error (c.underrun 4)

end Decode

namespace Module

def decodeLogged (options : DecodeOptions) (data : List UInt8) : Logged DecodeFailure Module := do
  let (magic, c) ← Decode.LoggedReader.lift [.header] Decode.fourBytes (.ofBytes data)
  if magic ≠ .magic then throw ⟨[], .invalidMagic magic.toList⟩
  let (version, c) ← Decode.LoggedReader.lift [.header] Decode.fourBytes c
  Logged.note [.header version]
  let sections ← Decode.sections options c []
  Logged.note [.moduleDecoded sections.length data.length]
  pure ⟨magic, version, sections⟩

def decode (options : DecodeOptions) (data : List UInt8) : Except DecodeFailure Module :=
  (decodeLogged options data).outcome.1

end Module

end WasmScope

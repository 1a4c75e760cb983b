import WasmScope.Listing.Line
import WasmScope.Module.Basic
import WasmScope.Text.Quoted

namespace WasmScope

namespace Instr

def withBlockType (op : Opcode) (bt : BlockType) : String :=
  if bt.text.isEmpty then op.mnemonic else op.mnemonic ++ " " ++ bt.text

/-- The instruction with its immediates; of a structured one, only its first line. -/
def text : Instr → String
  | localVar access index => access.opcode.mnemonic ++ " " ++ toString index.toNat
  | const value => Opcode.i32Const.mnemonic ++ " " ++ toString value.toInt
  | numeric op => op.opcode.mnemonic
  | branch mode label => mode.opcode.mnemonic ++ " " ++ toString label.toNat
  | block shape type _ => withBlockType shape.opcode type
  | cond type _ _ => withBlockType .cond type

end Instr

def codeLine (indent : Nat) (text : String) : Line := ⟨indent, [⟨.keyword, text⟩]⟩

mutual

/-- The lines of an instruction; what is nested in it stands one level further in. -/
def Instr.lines (indent : Nat) : Instr → List Line
  | .block shape type body =>
    codeLine indent (Instr.block shape type body).text :: body.lines (indent + 1)
      ++ [codeLine indent Opcode.close.mnemonic]
  | .cond type thn els =>
    codeLine indent (Instr.cond type thn els).text :: thn.lines (indent + 1)
      ++ (if hasElseBranch thn els then
            codeLine indent Opcode.otherwise.mnemonic :: els.lines (indent + 1)
          else [])
      ++ [codeLine indent Opcode.close.mnemonic]
  | i => [codeLine indent i.text]

def Expr.lines (indent : Nat) : Expr → List Line
  | .close _ => []
  | .cons head tail => head.lines indent ++ tail.lines indent

end

def Expr.text (e : Expr) : String := Line.renderAll .uncoloured (e.lines 0)

def typeGroup (keyword : String) (types : List ValType) : String :=
  if types.isEmpty then ""
  else " (" ++ keyword ++ String.join (types.map fun t => " " ++ t.name) ++ ")"

def FuncType.signature (t : FuncType) : String :=
  typeGroup "param" t.params ++ typeGroup "result" t.results

/-- The types of the locals of an entry, up to eight; where there are more, their number. -/
def LocalEntry.text (l : LocalEntry) : String :=
  String.join (List.replicate (min l.count.toNat 8) (" " ++ l.type.name))
    ++ (if 8 < l.count.toNat then " ...x" ++ toString l.count.toNat else "")

def localsText (locals : List LocalEntry) : String :=
  if locals.isEmpty then "" else " (local" ++ String.join (locals.map LocalEntry.text) ++ ")"

def indexText (i : Nat) : String := "(;" ++ toString i ++ ";)"

def plainPart (text : String) : Part := ⟨.plain, text⟩
def keywordPart (text : String) : Part := ⟨.keyword, text⟩
def commentPart (text : String) : Part := ⟨.comment, text⟩

def FuncType.line (indent i : Nat) (t : FuncType) : Line :=
  ⟨indent, [plainPart "(", keywordPart "type", plainPart (" " ++ indexText i ++ " ("),
    keywordPart "func", plainPart (t.signature ++ "))")]⟩

def functionLine (indent i : Nat) (type : UInt32) : Line :=
  ⟨indent, [plainPart "(", keywordPart "func",
    plainPart (" " ++ indexText i ++ " (type " ++ toString type.toNat ++ "))")]⟩

def Export.line (indent : Nat) (e : Export) : Line :=
  ⟨indent, [plainPart "(", keywordPart "export", plainPart " ", ⟨.name, Text.quoted e.name⟩,
    plainPart (" (" ++ e.kind.name ++ " " ++ toString e.index.toNat ++ "))")]⟩

def FuncBody.header (indent i : Nat) (fb : FuncBody) : Line :=
  ⟨indent, [plainPart "(", keywordPart "code",
    plainPart (" " ++ indexText i ++ localsText fb.locals ++ " "),
    commentPart (";; " ++ toString fb.size.toNat ++ " bytes")]⟩

def closingLine (indent : Nat) : Line := ⟨indent, [plainPart ")"]⟩

def FuncBody.lines (indent i : Nat) (fb : FuncBody) : List Line :=
  fb.header indent i :: fb.body.lines (indent + 1) ++ [closingLine indent]

namespace Section

def lines (indent : Nat) : Section → List Line
  | types entries => entries.mapIdx (FuncType.line indent)
  | functions entries => entries.mapIdx (functionLine indent)
  | exports entries => entries.map (Export.line indent)
  | code entries => (entries.mapIdx (FuncBody.lines indent)).flatten

def text (s : Section) : String := Line.renderAll .uncoloured (s.lines 0)

end Section

namespace Module

def header (m : Module) : Line :=
  ⟨0, [plainPart "(", keywordPart "module", plainPart " ",
    commentPart (";; version " ++ toString m.version.toNat)]⟩

def sectionComment (i : Nat) (s : Section) : Line :=
  ⟨1, [commentPart (";; section " ++ toString i ++ ": " ++ s.id.name)]⟩

def sectionLines (i : Nat) (s : Section) : List Line := sectionComment i s :: s.lines 1

def lines (m : Module) : List Line :=
  m.header :: (m.sections.mapIdx sectionLines).flatten ++ [closingLine 0]

def text (theme : Theme) (m : Module) : String := Line.renderAll theme m.lines

end Module

end WasmScope

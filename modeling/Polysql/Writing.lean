import Polysql.Dialect.Literal
import Polysql.Draft
import Polysql.Text.DollarTag
import Polysql.Writing.Identifier
import Polysql.Writing.Parameter
/-!
Drafts as text. Here the settings decide what the draft left open, and the values that are bound are
collected in the order of their placeholders.
-/

namespace Polysql

/-- What decides how pieces are written. -/
structure Style where
  /-- The engine. -/
  dialect : Dialect
  /-- The settings. -/
  settings : Settings

/-- What has been written so far. -/
structure Written where
  /-- The text. -/
  text : String
  /-- The values that are bound. -/
  parameters : List Parameter
  /-- What stopped the writing. -/
  error? : Option Error

namespace Written

/-- Nothing has been written, but values may be bound already. -/
def start (parameters : List Parameter) : Written :=
  ⟨"", parameters, none⟩

/-- Further text. -/
def add (r : Written) (s : String) : Written :=
  { r with text := r.text ++ s }

/-- Further text, unless there is none because of an error. -/
def addText (r : Written) (s : Except Error String) : Written :=
  match s with
  | .ok s => r.add s
  | .error e => { r with error? := some e }

/-- A further value that is bound, and its placeholder by its position. -/
def bind (r : Written) (p : Parameter) (placeholder : Nat → String) : Written :=
  { r with
    text := r.text ++ placeholder (r.parameters.length + 1)
    parameters := r.parameters ++ [p] }

/-- A semicolon and a blank. There is only one semicolon, though. -/
def terminate (r : Written) : Written :=
  if r.text.toList.getLast? = some ';' then r.add " " else r.add "; "

end Written

/-- The text of a nested draft, embedded. -/
def Wrapping.around : Wrapping → String → String
  | .quoted, body => Text.doubled '\'' body
  | .dollars, body => "DO " ++ Text.dollarTag body ++ body ++ Text.dollarTag body

namespace Style

/-- What separates a clause from what stands before it. -/
def separator (st : Style) (depth : Nat) : String :=
  if st.settings.formatted then
    "\n" ++ String.join (List.replicate depth st.settings.indentation)
  else
    " "

/-- A value that is bound, or written out if the settings say so. -/
def writeConstant (st : Style) (r : Written) (c : Constant) : Written :=
  match st.settings.parameters with
  | .inlined => r.addText (st.dialect.literal c.type c.value)
  | .indexed => r.bind c.parameter st.dialect.placeholder
  | .named => r.bind c.parameter fun n => st.dialect.namedPlaceholder n c.name?

mutual

/-- A piece after what has been written. -/
def writePiece (st : Style) (r : Written) : Piece → Written
  | .text s => r.add s
  | .name p => r.add (p.written st.settings st.dialect.family)
  | .literal _ s => r.add s
  | .parameter c => st.writeConstant r c
  | .clause depth => r.add (st.separator depth)
  | .terminator => r.terminate
  | .embedded wrapping body =>
    let inner := writePieces st (.start r.parameters) body
    { inner with text := r.text ++ wrapping.around inner.text }

/-- Pieces after what has been written, up to the first error. -/
def writePieces (st : Style) (r : Written) : List Piece → Written
  | [] => r
  | p :: ps =>
    let r' := writePiece st r p
    match r'.error? with
    | some _ => r'
    | none => writePieces st r' ps

end

/-- A draft after what has been written. -/
def write (st : Style) (r : Written) (d : Draft) : Written :=
  let r' := st.writePieces r d.pieces
  { r' with error? := r'.error?.or d.error? }

end Style

end Polysql

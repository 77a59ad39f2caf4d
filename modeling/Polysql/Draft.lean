import Polysql.Error
import Polysql.Query
/-!
A statement on its way to text. A draft says everything about a statement that depends on the
dialect, and leaves open what settings decide: the layout of clauses, the quoting of names, and the
form of bound values. It is a list of pieces, possibly cut short by an error; what was drafted
before the error is kept, since the values bound there stay bound.

Drafts are joined by `++`, which goes on only after a draft without an error (`append_of_failed`).
-/

namespace Polysql

/-- How the text of a nested draft is embedded. -/
inductive Wrapping where
  /-- Inside a string literal: single quotes are doubled. -/
  | quoted
  /-- Between dollar tags that do not occur in it, after `DO`. -/
  | dollars
deriving DecidableEq, Repr

/-- A piece of a draft. -/
inductive Piece where
  /-- Fixed text. -/
  | text (s : String)
  /-- A part of a name. -/
  | name (p : NamePart)
  /-- A value that is written out, and its text. -/
  | literal (c : Constant) (s : String)
  /-- A value that is bound. -/
  | parameter (c : Constant)
  /-- The start of a clause at a depth. -/
  | clause (depth : Nat)
  /-- The end of a statement in a block. -/
  | terminator
  /-- A draft of its own. -/
  | embedded (wrapping : Wrapping) (body : List Piece)

/-- A list of pieces, possibly cut short by an error. -/
structure Draft where
  /-- The pieces. -/
  pieces : List Piece
  /-- The error, if there is one. -/
  error? : Option Error

namespace Draft

/-- Nothing. -/
def empty : Draft :=
  ⟨[], none⟩

/-- A single piece. -/
def ofPiece (p : Piece) : Draft :=
  ⟨[p], none⟩

/-- Fixed text. -/
def text (s : String) : Draft :=
  ofPiece (.text s)

instance : Coe String Draft := ⟨text⟩

/-- An error. -/
def fail (e : Error) : Draft :=
  ⟨[], some e⟩

/-- One draft and then the other, unless the first one failed. -/
def append (a b : Draft) : Draft :=
  match a.error? with
  | some _ => a
  | none => ⟨a.pieces ++ b.pieces, b.error?⟩

instance : Append Draft := ⟨append⟩

/-- The drafts one after the other. -/
def concat (ds : List Draft) : Draft :=
  ds.foldr (· ++ ·) empty

/-- The drafts with `separator` between them. -/
def separated (separator : String) : List Draft → Draft
  | [] => empty
  | [d] => d
  | d :: ds => d ++ text separator ++ separated separator ds

/-- The drafts with commas between them. -/
def commas (ds : List Draft) : Draft :=
  separated ", " ds

/-- The draft, if a condition is met. -/
def onlyIf (b : Bool) (d : Draft) : Draft :=
  if b then d else empty

/-- The draft of something that may be absent. -/
def ofOption {α : Type} (draft : α → Draft) : Option α → Draft
  | some a => draft a
  | none => empty

/-- Goes on with what was computed, or fails. -/
def bind {α : Type} (result : Except Error α) (draft : α → Draft) : Draft :=
  match result with
  | .ok a => draft a
  | .error e => fail e

/-- Text that may have failed. -/
def ofText (result : Except Error String) : Draft :=
  bind result text

/-- A value that is written out, unless that failed. -/
def ofLiteral (c : Constant) (result : Except Error String) : Draft :=
  bind result fun s => ofPiece (.literal c s)

/-- A natural number. -/
def number (n : Nat) : Draft :=
  text (Nat.repr n)

/-- A draft embedded into another. -/
def embed (wrapping : Wrapping) (d : Draft) : Draft :=
  ⟨[.embedded wrapping d.pieces], d.error?⟩

theorem append_of_failed {a : Draft} (h : a.error?.isSome) (b : Draft) : a ++ b = a := by
  obtain ⟨pieces, _ | e⟩ := a
  · simp at h
  · rfl

@[simp] theorem empty_append (a : Draft) : empty ++ a = a := rfl

@[simp] theorem append_empty (a : Draft) : a ++ empty = a := by
  obtain ⟨pieces, _ | e⟩ := a
  · exact congrArg (Draft.mk · none) (List.append_nil pieces)
  · rfl

theorem append_assoc (a b c : Draft) : a ++ b ++ c = a ++ (b ++ c) := by
  obtain ⟨ps, _ | e⟩ := a
  · obtain ⟨qs, _ | f⟩ := b
    · exact congrArg (Draft.mk · c.error?) (List.append_assoc ps qs c.pieces)
    · rfl
  · rfl

end Draft

end Polysql

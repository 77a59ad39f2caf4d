import Polysql.Draft.Scope
/-!
Drafts of names. Tables, indexes and sequences are written with all parts of their names; a column
may leave its qualifier to the statement it stands in.
-/

namespace Polysql.Draft

/-- All parts of a name. -/
def qualified (n : Name) : Draft :=
  separated "." (n.parts.map fun p => ofPiece (.name p))

/-- The last part of a name. -/
def unqualified (n : Name) : Draft :=
  ofOption (fun p => ofPiece (.name p)) n.parts.getLast?

/-- The name of a column. -/
def column (s : Scope) (n : Name) : Draft :=
  if s.qualify then qualified n else unqualified n

/-- The last parts of several names, with commas between them. -/
def unqualifiedNames (ns : List Name) : Draft :=
  commas (ns.map unqualified)

end Polysql.Draft

import Polysql.Catalog
import Polysql.Dialect.Feature
import Polysql.Draft
import Polysql.Settings
import Polysql.Statement
/-!
What the draft of a part depends on besides the part: the engine, what is known of the database, and
the place where the part stands.

The parts of a statement contain each other, and detours draft trees that are larger than what they
replace. So the drafts of the parts are given by `Writers`, one for each kind of part, and every
kind is drafted by means of some writers for what it contains.
-/

namespace Polysql

/-- What a draft is made for. -/
structure Target where
  /-- The engine. -/
  dialect : Dialect
  /-- What is known of the database. -/
  catalog? : Option Catalog
  /-- What is done with a delete without a condition. -/
  wholeDelete : WholeTablePolicy
  /-- What is done with an update without a condition. -/
  wholeUpdate : WholeTablePolicy

/-- What stands between several conditions. -/
inductive Junction where
  | and
  | or
  | xor
deriving DecidableEq, Repr

/-- The words between several conditions. -/
def Junction.separator : Junction → String
  | and => " AND "
  | or => " OR "
  | xor => " XOR "

/-- The place where a part stands. -/
structure Scope where
  /-- What the draft is made for. -/
  target : Target
  /-- How many queries enclose it. -/
  depth : Nat := 0
  /-- Values are written out. -/
  inline : Bool := false
  /-- Columns keep their qualifier. -/
  qualify : Bool := true
  /-- Tables are introduced with their alias, and not only referred to. -/
  declareTables : Bool := true
  /-- What is selected keeps its alias. -/
  declareFields : Bool := true
  /-- The junction that the condition is an operand of. -/
  junction? : Option Junction := none
  /-- A block encloses it. -/
  inBlock : Bool := false
  /-- Semi and anti joins can be taken over by a condition. -/
  absorbs : Bool := false

namespace Scope

/-- The engine. -/
def dialect (s : Scope) : Dialect :=
  s.target.dialect

/-- The family of the engine. -/
def family (s : Scope) : Family :=
  s.dialect.family

/-- The engine has a feature. -/
def has (s : Scope) (feature : DialectSet) : Bool :=
  feature.contains s.dialect

/-- A feature that the engine lacks. -/
def lacks (s : Scope) (feature : String) : Error :=
  .unsupported s.dialect feature

/-- The draft fails because the engine lacks a feature. -/
def refuse (s : Scope) (feature : String) : Draft :=
  .fail (s.lacks feature)

/-- The place of a query inside another. -/
def inQuery (s : Scope) : Scope :=
  { s with depth := s.depth + 1, declareFields := true, junction? := none, absorbs := false }

/-- The place of a statement that is embedded as text. -/
def inText (s : Scope) : Scope :=
  { s with
    depth := 0
    inline := true
    declareTables := true
    declareFields := true
    junction? := none
    absorbs := false }

/-- The start of a clause. -/
def clause (s : Scope) (keyword : String) : Draft :=
  .ofPiece (.clause s.depth) ++ Draft.text keyword

/-- What is known of a table. -/
def tableInfo? (s : Scope) (name : Name) : Option TableInfo :=
  s.target.catalog?.bind fun c => c.table? name

end Scope

/-- The drafts of the parts of a statement. -/
structure Writers where
  /-- An expression. -/
  expr : Scope → Expr → Draft
  /-- The call of a function. -/
  call : Scope → Call → Draft
  /-- A condition. -/
  condition : Scope → Condition → Draft
  /-- A query. -/
  select : Scope → Select → Draft
  /-- A table. -/
  table : Scope → Table → Draft
  /-- A statement. -/
  statement : Scope → Statement → Draft

namespace Writers

/-- Expressions with commas between them. -/
def exprs (w : Writers) (s : Scope) (es : List Expr) : Draft :=
  .commas (es.map (w.expr s))

/-- A row of values. -/
def row (w : Writers) (s : Scope) (r : Row) : Draft :=
  "(" ++ w.exprs s r ++ ")"

/-- A query in parentheses. -/
def subquery (w : Writers) (s : Scope) (q : Select) : Draft :=
  "(" ++ w.select s.inQuery q ++ ")"

end Writers

end Polysql

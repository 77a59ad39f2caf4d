import Polysql.Proofs.Draft.Manner
import Polysql.Proofs.Formatter.Place
/-!
What renders the parts of a statement on a formatter (`Formatters`), as `Writers` draft them. Every
kind of part is rendered by means of some formatters for what it contains, which go on with the
formatter as they find it. Formatters follow writers if each part writes the draft of its place, and
joins are taken over by tables only (`Formatters.Follows`).
-/

namespace Polysql

/-! ### Names -/

namespace Formatting

/-- All parts of a name. -/
def qualified (n : Name) : Formatting Unit :=
  emit fun _ => .qualified n

/-- The last part of a name. -/
def lastPart (n : Name) : Formatting Unit :=
  emit fun _ => .unqualified n

/-- The name of a column, with its qualifier where columns keep it. -/
def column (n : Name) : Formatting Unit :=
  emit fun s => .column s n

/-- The last parts of several names, with commas between them. -/
def lastParts (ns : List Name) : Formatting Unit :=
  commas (ns.map lastPart)

variable {s : Scope}

@[grind ←]
lemma renders_qualified (n : Name) : (qualified n).Renders s (.qualified n) :=
  renders_emit rfl

@[grind ←]
lemma renders_lastPart (n : Name) : (lastPart n).Renders s (.unqualified n) :=
  renders_emit rfl

@[grind ←]
lemma renders_column (n : Name) : (column n).Renders s (.column s n) :=
  renders_emit rfl

@[grind ←]
lemma renders_lastParts (ns : List Name) : (lastParts ns).Renders s (.unqualifiedNames ns) :=
  Renders.commas_map renders_lastPart ns

end Formatting

/-! ### Parts -/

/-- What renders the parts of a statement. -/
structure Formatters where
  /-- An expression. -/
  expr : Expr → Formatting Unit
  /-- The call of a function. -/
  call : Call → Formatting Unit
  /-- A condition. -/
  condition : Condition → Formatting Unit
  /-- A query. -/
  select : Select → Formatting Unit
  /-- A table. -/
  table : Table → Formatting Unit
  /-- A statement. -/
  statement : Statement → Formatting Unit

namespace Formatters

/-- Expressions with commas between them. -/
def exprs (m : Formatters) (es : List Expr) : Formatting Unit :=
  .commas (es.map m.expr)

/-- A row of values. -/
def row (m : Formatters) (r : Row) : Formatting Unit :=
  "(" ++ m.exprs r ++ ")"

/-- A query in parentheses. -/
def subquery (m : Formatters) (q : Select) : Formatting Unit :=
  "(" ++ .within .inQuery (m.select q) ++ ")"

/-- The formatters render what writers draft. -/
structure Follows (m : Formatters) (w : Writers) : Prop where
  /-- The writers draft every part in the manner of its place. -/
  settled : w.Settled
  expr (s : Scope) (e : Expr) : (m.expr e).Renders s (w.expr s e)
  call (s : Scope) (c : Call) : (m.call c).Renders s (w.call s c)
  condition (s : Scope) (c : Condition) : (m.condition c).Renders s (w.condition s c)
  select (s : Scope) (q : Select) : (m.select q).Renders s (w.select s q)
  table (s : Scope) (t : Table) : (m.table t).Yields s (w.table s t) (t.absorbed s.dialect) ()
  statement (s : Scope) (stmt : Statement) : (m.statement stmt).Writes s (w.statement s stmt)

attribute [grind ←] Follows.expr Follows.call Follows.condition Follows.select

namespace Follows

variable {m : Formatters} {w : Writers} (h : m.Follows w) (s : Scope)
include h

@[grind ←]
lemma exprs (es : List Expr) : (m.exprs es).Renders s (w.exprs s es) :=
  .commas_map (h.expr s) es

@[grind ←]
lemma row (r : Row) : (m.row r).Renders s (w.row s r) := by
  rw [Formatters.row, Writers.row]
  grind

@[grind ←]
lemma subquery (q : Select) : (m.subquery q).Renders s (w.subquery s q) := by
  rw [Formatters.subquery, Writers.subquery]
  grind

end Follows

end Formatters

end Polysql

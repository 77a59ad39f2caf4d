import Polysql.Draft.Join
import Polysql.Draft.Limit
/-!
Drafts of queries. Set operations are written one after the other; an operand with clauses that
would otherwise apply to the whole query stands in parentheses.
-/

namespace Polysql

/-- A condition with further ones that all have to be met. -/
def Condition.joined (filter? : Option Condition) (others : List Condition) : Option Condition :=
  if others.isEmpty then filter? else some (all (filter?.toList ++ others))

namespace Select

/-- The query has clauses that apply to all operands of its set operations. -/
def isCompound (q : Select) : Bool :=
  q.with?.isSome || !q.setOps.isEmpty || !q.orderBy.isEmpty || q.limited?.isSome

end Select

namespace Scope

/-- The place of tables whose semi and anti joins a condition takes over. -/
def absorbing (s : Scope) : Scope :=
  { s with absorbs := true }

/-- The place of an operand of a set operation, whose columns have the names of the first one. -/
def withoutFieldNames (s : Scope) : Scope :=
  { s with declareFields := false }

end Scope

namespace Draft

/-- The direction of an order. -/
def direction (direction? : Option Direction) : Draft :=
  match direction? with
  | some .ascending => " ASC"
  | some .descending => " DESC"
  | none => empty

end Draft

namespace Writers

/-- Tables with commas between them. -/
def tables (w : Writers) (s : Scope) (ts : List Table) : Draft :=
  .commas (ts.map (w.table s.absorbing))

/-- A `WHERE` clause, if there is a condition. -/
def whereClause (w : Writers) (s : Scope) (filter? : Option Condition) : Draft :=
  .ofOption (fun c => s.clause "WHERE " ++ w.condition s c) filter?

/-- An expression that rows are ordered by. Where the engine cannot say where NULL comes, a number
for NULL and one for the other values come first. -/
def orderItem (w : Writers) (s : Scope) (o : OrderItem) : Draft :=
  let e := w.expr s o.expr ++ Draft.direction o.direction?
  match o.nulls? with
  | none => e
  | some nulls =>
    if s.has Feature.nullsOrdering then
      e ++ (match nulls with
        | .first => " NULLS FIRST"
        | .last => " NULLS LAST")
    else
      "CASE WHEN " ++ w.expr s o.expr ++ (match nulls with
        | .first => " IS NULL THEN 0 ELSE 1 END, "
        | .last => " IS NULL THEN 1 ELSE 0 END, ") ++ e

/-- An `ORDER BY` clause, if there is an order. -/
def orderBy (w : Writers) (s : Scope) (items : List OrderItem) : Draft :=
  .onlyIf (!items.isEmpty) (s.clause "ORDER BY " ++ .commas (items.map (w.orderItem s)))

/-- A query that is named in front. -/
def cte (w : Writers) (s : Scope) (c : Cte) : Draft :=
  Draft.unqualified c.name ++
    Draft.onlyIf (!c.columns.isEmpty) ("(" ++ Draft.unqualifiedNames c.columns ++ ")") ++
    " AS " ++ w.subquery s c.select

/-- The queries in front. -/
def withClause (w : Writers) (s : Scope) (c : With) : Draft :=
  "WITH " ++ Draft.onlyIf (c.recursive && s.has Feature.recursiveKeyword) "RECURSIVE " ++
    Draft.commas (c.ctes.map (w.cte s)) ++ s.clause ""

/-- `DISTINCT`. -/
def distinct (w : Writers) (s : Scope) (d : Distinct) : Draft :=
  match d with
  | .all => "DISTINCT "
  | .on es =>
    if s.has Feature.distinctOn then "DISTINCT ON (" ++ w.exprs s es ++ ") "
    else s.refuse "DISTINCT ON"

/-- What is selected. -/
def selectField (w : Writers) (s : Scope) (f : SelectField) : Draft :=
  w.expr s f.expr ++
    Draft.onlyIf s.declareFields (.ofOption (fun n => " AS " ++ Draft.unqualified n) f.alias?)

/-- Everything that is selected. -/
def selectFields (w : Writers) (s : Scope) (fs : List SelectField) : Draft :=
  if fs.isEmpty then "*" else .commas (fs.map (w.selectField s))

/-- A `FROM` clause. The table of one row is named only where there has to be a table. -/
def fromClause (w : Writers) (s : Scope) (ts : List Table) (filtered : Bool) : Draft :=
  match ts.filter fun t => !t.isDual with
  | [] => .onlyIf (s.dialect.needsDual filtered) (s.clause "FROM " ++ s.family.dual)
  | ts => s.clause "FROM " ++ w.tables s ts

/-- The condition of a query, with what takes over the semi and anti joins of its tables. -/
def rowCondition (d : Dialect) (q : Select) : Option Condition :=
  Condition.joined q.filter? (q.tables.flatMap (Table.absorbed d))

/-- A query without its set operations and what applies to all of them. A limit in front comes
after `DISTINCT` if it is a `TOP`, and before it otherwise. -/
def body (w : Writers) (s : Scope) (q : Select) (first : Bool) : Draft :=
  let limit (afterDistinct : Bool) :=
    Draft.onlyIf (first && (s.dialect.limitForm == .top) == afterDistinct)
      (Draft.limitInFront s q)
  "SELECT " ++ limit false ++ Draft.ofOption (w.distinct s) q.distinct? ++ limit true ++
    w.selectFields s q.fields ++ w.fromClause s q.tables q.filter?.isSome ++
    w.whereClause s (rowCondition s.dialect q) ++
    Draft.onlyIf (!q.groupBy.isEmpty) (s.clause "GROUP BY " ++ w.exprs s q.groupBy) ++
    Draft.ofOption (fun c => s.clause "HAVING " ++ w.condition s c) q.having?

/-- The words of a set operation. -/
def setWords (s : Scope) (o : SetOperation) : String :=
  let word := match o.op with
    | .union => "UNION"
    | .intersect => "INTERSECT"
    | .except => if s.family = .oracle then "MINUS" else "EXCEPT"
  word ++ (if o.all then " ALL " else " ")

/-- A set operation and its operand. -/
def setOperation (w : Writers) (s : Scope) (o : SetOperation) : Draft :=
  if o.op ≠ .union ∧ s.has Feature.withoutIntersect then
    s.refuse "INTERSECT and EXCEPT"
  else if o.op ≠ .union ∧ o.all ∧ !s.has Feature.intersectAll then
    s.refuse "INTERSECT ALL and EXCEPT ALL"
  else
    s.clause (setWords s o) ++
      (if o.select.isCompound then w.subquery s o.select
        else w.body s.withoutFieldNames o.select false)

/-- A query whose limit the engine can write. -/
def selectLimited (w : Writers) (s : Scope) (q : Select) : Draft :=
  if q.forUpdate && s.has Feature.withoutForUpdate then
    s.refuse "FOR UPDATE"
  else
    Draft.ofOption (w.withClause s) q.with? ++ w.body s q true ++
      Draft.concat (q.setOps.map (w.setOperation s)) ++ w.orderBy s q.orderBy ++
      Draft.limitAtEnd s q ++ Draft.onlyIf q.forUpdate (s.clause "FOR UPDATE")

/-- A query, by means of writers for its parts. -/
def draftSelect (w : Writers) (s : Scope) (q : Select) : Draft :=
  match q.limited? with
  | none => w.selectLimited s q
  | some l =>
    if s.dialect.limitForm = .rowNumber then w.rowNumbered s q l else w.selectLimited s q

end Writers

end Polysql

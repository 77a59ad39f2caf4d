import Polysql.Proofs.Formatter.Table
/-!
Queries on a formatter. The tables of a query are rendered first, and what they leave to a condition
is collected; the condition of the query then takes it over, so that nothing of it is left behind.
-/

namespace Polysql

/-- The table of one row leaves nothing to a condition. -/
lemma Table.flatMap_absorbed_filter (d : Dialect) (ts : List Table) :
    (ts.filter fun t => !t.isDual).flatMap (absorbed d) = ts.flatMap (absorbed d) := by
  induction ts with
  | nil => rfl
  | cons t ts ih =>
    rw [List.filter_cons, List.flatMap_cons, ← ih]
    cases t <;> rfl

namespace Formatters

section

variable (m : Formatters)

/-- Tables with commas between them, and the conditions that take over their joins. -/
def tables (ts : List Table) : Formatting (List Condition) :=
  .collecting (.commas (ts.map m.table))

/-- A `WHERE` clause, if there is a condition. -/
def whereClause (filter? : Option Condition) : Formatting Unit :=
  .ofOption (fun c => .clause "WHERE " ++ m.condition c) filter?

/-- The direction of an order. -/
def direction (direction? : Option Direction) : Formatting Unit :=
  .emit fun _ => .direction direction?

/-- An expression that rows are ordered by. -/
def orderItem (o : OrderItem) : Formatting Unit := .asking fun s =>
  let e := m.expr o.expr ++ direction o.direction?
  match o.nulls? with
  | none => e
  | some nulls =>
    if s.has Feature.nullsOrdering then
      e ++ (match nulls with
        | .first => " NULLS FIRST"
        | .last => " NULLS LAST")
    else
      "CASE WHEN " ++ m.expr o.expr ++ (match nulls with
        | .first => " IS NULL THEN 0 ELSE 1 END, "
        | .last => " IS NULL THEN 1 ELSE 0 END, ") ++ e

/-- An `ORDER BY` clause, if there is an order. -/
def orderBy (items : List OrderItem) : Formatting Unit :=
  .onlyIf (!items.isEmpty) (.clause "ORDER BY " ++ .commas (items.map m.orderItem))

/-- A query that is named in front. -/
def cte (c : Cte) : Formatting Unit :=
  .lastPart c.name ++
    Formatting.onlyIf (!c.columns.isEmpty) ("(" ++ .lastParts c.columns ++ ")") ++
    " AS " ++ m.subquery c.select

/-- The queries in front. -/
def withClause (c : With) : Formatting Unit := .asking fun s =>
  "WITH " ++ Formatting.onlyIf (c.recursive && s.has Feature.recursiveKeyword) "RECURSIVE " ++
    Formatting.commas (c.ctes.map m.cte) ++ Formatting.clause ""

/-- `DISTINCT`. -/
def distinct (d : Distinct) : Formatting Unit := .asking fun s =>
  match d with
  | .all => "DISTINCT "
  | .on es =>
    if s.has Feature.distinctOn then "DISTINCT ON (" ++ m.exprs es ++ ") "
    else .refuse "DISTINCT ON"

/-- What is selected. Its alias is left out where names come from elsewhere. -/
def selectField (f : SelectField) : Formatting Unit :=
  m.expr f.expr ++ .asking fun s =>
    .onlyIf s.declareFields (.ofOption (fun n => " AS " ++ Formatting.lastPart n) f.alias?)

/-- Everything that is selected. -/
def selectFields (fs : List SelectField) : Formatting Unit :=
  if fs.isEmpty then "*" else .commas (fs.map m.selectField)

/-- A `FROM` clause, and the conditions that take over the joins of its tables. -/
def fromClause (ts : List Table) (filtered : Bool) : Formatting (List Condition) :=
  match ts.filter fun t => !t.isDual with
  | [] => do
    Formatting.asking fun s =>
      .onlyIf (s.dialect.needsDual filtered) (.clause "FROM " ++ dual)
    return []
  | ts => do
    Formatting.clause "FROM "
    m.tables ts

/-- The part of a limit that stands in front of what is selected, at one of two places. -/
def limitInFront (q : Select) (first afterDistinct : Bool) : Formatting Unit :=
  .emit fun s =>
    .onlyIf (first && (s.dialect.limitForm == .top) == afterDistinct) (.limitInFront s q)

/-- A query up to its tables. -/
def selectHead (q : Select) (first : Bool) : Formatting Unit :=
  "SELECT " ++ limitInFront q first false ++ .ofOption m.distinct q.distinct? ++
    limitInFront q first true ++ m.selectFields q.fields

/-- A query from its condition on, which may be more than it has of its own. -/
def selectRest (q : Select) (filter? : Option Condition) : Formatting Unit :=
  m.whereClause filter? ++
    .onlyIf (!q.groupBy.isEmpty) (.clause "GROUP BY " ++ m.exprs q.groupBy) ++
    .ofOption (fun c => .clause "HAVING " ++ m.condition c) q.having?

/-- A query without its set operations and what applies to all of them. Its condition takes over
the joins of its tables. -/
def body (q : Select) (first : Bool) : Formatting Unit := do
  m.selectHead q first
  let joins ← m.fromClause q.tables q.filter?.isSome
  m.selectRest q (Condition.joined q.filter? joins)

/-- A set operation and its operand. -/
def setOperation (o : SetOperation) : Formatting Unit := .asking fun s =>
  if o.op ≠ .union ∧ s.has Feature.withoutIntersect then
    .refuse "INTERSECT and EXCEPT"
  else if o.op ≠ .union ∧ o.all ∧ !s.has Feature.intersectAll then
    .refuse "INTERSECT ALL and EXCEPT ALL"
  else
    .clause (Writers.setWords s o) ++
      (if o.select.isCompound then m.subquery o.select
        else .within .withoutFieldNames (m.body o.select false))

/-- The part of a limit that stands at the end of a query. -/
def limitAtEnd (q : Select) : Formatting Unit :=
  .emit fun s => .limitAtEnd s q

/-- A query whose limit the engine can write. -/
def selectLimited (q : Select) : Formatting Unit := .asking fun s =>
  if q.forUpdate && s.has Feature.withoutForUpdate then
    .refuse "FOR UPDATE"
  else
    Formatting.ofOption m.withClause q.with? ++ m.body q true ++
      Formatting.concat (q.setOps.map m.setOperation) ++ m.orderBy q.orderBy ++
      limitAtEnd q ++ Formatting.onlyIf q.forUpdate (.clause "FOR UPDATE")

/-- A number of rows. -/
def rowCount (n : UInt64) : Formatting Unit :=
  .emit fun _ => .rowCount n

/-- A limit around a query by the numbers of its rows. -/
def rowNumbered (q : Select) (l : Limit) : Formatting Unit :=
  let all := Formatting.within .inQuery (m.select { q with limit? := none })
  match l.count?, l.offset? with
  | some n, none =>
    "SELECT * FROM (" ++ all ++ ") q" ++ .clause "WHERE ROWNUM <= " ++ rowCount n
  | n?, m? =>
    let skipped := m?.getD 0
    "SELECT * FROM (SELECT q.*, ROWNUM rn FROM (" ++ all ++ ") q" ++
      Formatting.ofOption
        (fun n => " WHERE ROWNUM <= " ++ .emit fun _ => .number (Limit.lastRow n skipped)) n? ++
      ")" ++ .clause "WHERE rn > " ++ rowCount skipped

/-- A query, by means of formatters for its parts. -/
def formatSelect (q : Select) : Formatting Unit := .asking fun s =>
  match q.limited? with
  | none => m.selectLimited q
  | some l =>
    if s.dialect.limitForm = .rowNumber then m.rowNumbered q l else m.selectLimited q

end

section

variable {s : Scope}

@[grind ←]
lemma renders_direction (direction? : Option Direction) :
    (direction direction?).Renders s (.direction direction?) :=
  Formatting.renders_emit rfl

@[grind ←]
lemma renders_limitInFront (q : Select) (first afterDistinct : Bool) :
    (limitInFront q first afterDistinct).Renders s
      (.onlyIf (first && (s.dialect.limitForm == .top) == afterDistinct)
        (.limitInFront s q)) :=
  Formatting.renders_emit rfl

@[grind ←]
lemma renders_limitAtEnd (q : Select) : (limitAtEnd q).Renders s (.limitAtEnd s q) :=
  Formatting.renders_emit rfl

@[grind ←]
lemma renders_rowCount (n : UInt64) : (rowCount n).Renders s (.rowCount n) :=
  Formatting.renders_emit rfl

end

namespace Follows

variable {m : Formatters} {w : Writers} (h : m.Follows w) (s : Scope)
include h

/-! ### Clauses -/

lemma tables (ts : List Table) :
    (m.tables ts).Yields s (w.tables s ts) [] (ts.flatMap (Table.absorbed s.dialect)) :=
  .collecting (.separated (h.table s.absorbing) ts)

@[grind ←]
lemma whereClause (filter? : Option Condition) :
    (m.whereClause filter?).Renders s (w.whereClause s filter?) := by
  rw [Formatters.whereClause, Writers.whereClause]
  grind

@[grind ←]
lemma orderItem (o : OrderItem) : (m.orderItem o).Renders s (w.orderItem s o) := by
  rw [Formatters.orderItem, Writers.orderItem]
  refine .asking ?_
  split <;> grind

@[grind ←]
lemma orderBy (items : List OrderItem) : (m.orderBy items).Renders s (w.orderBy s items) := by
  rw [Formatters.orderBy, Writers.orderBy]
  grind

@[grind ←]
lemma cte (c : Cte) : (m.cte c).Renders s (w.cte s c) := by
  rw [Formatters.cte, Writers.cte]
  grind

@[grind ←]
lemma withClause (c : With) : (m.withClause c).Renders s (w.withClause s c) := by
  rw [Formatters.withClause, Writers.withClause]
  grind

@[grind ←]
lemma distinct (d : Distinct) : (m.distinct d).Renders s (w.distinct s d) := by
  rw [Formatters.distinct, Writers.distinct.eq_def]
  refine .asking ?_
  split <;> grind

@[grind ←]
lemma selectField (f : SelectField) : (m.selectField f).Renders s (w.selectField s f) := by
  rw [Formatters.selectField, Writers.selectField]
  grind

@[grind ←]
lemma selectFields (fs : List SelectField) :
    (m.selectFields fs).Renders s (w.selectFields s fs) := by
  rw [Formatters.selectFields, Writers.selectFields]
  grind

/-- The conditions that come with a `FROM` clause are those of all tables. -/
lemma fromClause (ts : List Table) (filtered : Bool) :
    (m.fromClause ts filtered).Yields s (w.fromClause s ts filtered) []
      (ts.flatMap (Table.absorbed s.dialect)) := by
  rw [Formatters.fromClause, Writers.fromClause, ← Table.flatMap_absorbed_filter]
  cases ts.filter fun t => !t.isDual with
  | nil =>
    have hdual : (Formatting.asking fun s : Scope =>
        .onlyIf (s.dialect.needsDual filtered) (.clause "FROM " ++ dual)).Renders s
        (.onlyIf (s.dialect.needsDual filtered) (s.clause "FROM " ++ s.family.dual)) := by
      grind
    rw [← Draft.append_empty (Draft.onlyIf _ _)]
    exact hdual.bind (Formatting.yields_pure [])
  | cons t ts => exact (Formatting.renders_clause "FROM ").bind (h.tables s (t :: ts))

/-! ### Queries -/

@[grind ←]
lemma body (q : Select) (first : Bool) : (m.body q first).Renders s (w.body s q first) := by
  have hhead : (m.selectHead q first).Renders s
      ("SELECT " ++
        Draft.onlyIf (first && (s.dialect.limitForm == .top) == false) (.limitInFront s q) ++
        Draft.ofOption (w.distinct s) q.distinct? ++
        Draft.onlyIf (first && (s.dialect.limitForm == .top) == true) (.limitInFront s q) ++
        w.selectFields s q.fields) := by
    rw [Formatters.selectHead]
    grind
  -- for any condition, since that of the query is joined with what the tables left over
  have hrest (filter? : Option Condition) : (m.selectRest q filter?).Renders s
      (w.whereClause s filter? ++
        Draft.onlyIf (!q.groupBy.isEmpty) (s.clause "GROUP BY " ++ w.exprs s q.groupBy) ++
        Draft.ofOption (fun c => s.clause "HAVING " ++ w.condition s c) q.having?) := by
    rw [Formatters.selectRest]
    grind
  have hbody : (m.body q first).Renders s _ :=
    hhead.bind ((h.fromClause s q.tables q.filter?.isSome).bind (hrest _))
  rw [Writers.body, Writers.rowCondition]
  simpa only [Draft.append_assoc] using hbody

@[grind ←]
lemma setOperation (o : SetOperation) :
    (m.setOperation o).Renders s (w.setOperation s o) := by
  rw [Formatters.setOperation, Writers.setOperation]
  refine .asking ?_
  split <;> grind

@[grind ←]
lemma selectLimited (q : Select) : (m.selectLimited q).Renders s (w.selectLimited s q) := by
  rw [Formatters.selectLimited, Writers.selectLimited]
  refine .asking ?_
  split <;> grind

@[grind ←]
lemma rowNumbered (q : Select) (l : Limit) :
    (m.rowNumbered q l).Renders s (w.rowNumbered s q l) := by
  rw [Formatters.rowNumbered, Writers.rowNumbered]
  split <;> grind

/-- A query is rendered as it is drafted. -/
lemma formatSelect (q : Select) : (m.formatSelect q).Renders s (w.draftSelect s q) := by
  rw [Formatters.formatSelect, Writers.draftSelect]
  grind

end Follows

end Formatters

end Polysql

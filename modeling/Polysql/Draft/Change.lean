import Polysql.Draft.Insert
/-!
Drafts of updates and deletes. Where such a statement cannot be ordered or limited, its condition
becomes the membership of a key in a query that is ordered and limited.
-/

namespace Polysql

/-- The column that engines number the rows of every table by. -/
def Family.rowNumberColumn? : Family → Option String
  | .postgres | .yugabyteDb => some "ctid"
  | .oracle => some "ROWID"
  | .sqlite | .duckDb => some "rowid"
  | .h2 => some "_ROWID_"
  | .firebird => some "RDB$DB_KEY"
  | _ => none

/-- Goes on unless the policy forbids a change of a whole table. -/
def WholeTablePolicy.check (p : WholeTablePolicy) (kind : String) (filter? : Option Condition)
    (d : Draft) : Draft :=
  if p = .refuse ∧ filter?.isNone then
    .fail (.ofCause (.policy (kind ++ " without a WHERE clause")))
  else
    d

/-- The rows that a change is restricted to. -/
structure ChangedRows where
  /-- The condition. -/
  filter? : Option Condition
  /-- The order in which the rows are changed. -/
  orderBy : List OrderItem
  /-- How many rows are changed. -/
  limit? : Option UInt64

namespace ChangedRows

/-- There is an order or a limit, and the engine has none for changes. -/
def needsKey (r : ChangedRows) (s : Scope) : Bool :=
  (r.limit?.isSome || !r.orderBy.isEmpty) && !s.has Feature.limitedChanges

/-- The expressions that identify a row of a table: its key, or the number of the row. -/
def identifying (s : Scope) (t : NamedTable) : Except Error (List Expr) :=
  match (s.tableInfo? t.name).bind TableInfo.identifyingKey? with
  | some key => .ok (key.columns.map fun c => .column (t.reference ++ Name.ofText c))
  | none =>
    match s.family.rowNumberColumn? with
    | some c => .ok [.column (t.reference ++ Name.ofTextsWith .unquoted [c])]
    | none => .error (s.lacks "ORDER BY and LIMIT on a DELETE or UPDATE without a key")

/-- The rows as a query of their keys. -/
def query (r : ChangedRows) (t : Table) (key : List Expr) : Select :=
  { (({} : Select).addFields key).table t with
    filter? := r.filter?
    orderBy := r.orderBy
    limit? := r.limit?.map fun n => ⟨some n, none⟩ }

/-- The condition that the key of a row is among those of the rows. -/
def keyCondition (r : ChangedRows) (s : Scope) (t : Table) : Except Error Condition :=
  match t with
  | .named n => do
    let key ← identifying s n
    return match key with
      | [e] => .inSelect e (r.query t key) false
      | key => .rowInSelect key (r.query t key) false
  | _ =>
    .error (s.lacks "ORDER BY and LIMIT on a DELETE or UPDATE of a derived table")

/-- The condition of the change on the engine. -/
def condition (r : ChangedRows) (s : Scope) (t : Table) : Except Error (Option Condition) :=
  if r.needsKey s then (r.keyCondition s t).map some else .ok r.filter?

end ChangedRows

namespace Writers

/-- The end of a change: its condition, and its order and limit unless the condition contains
them. -/
def changeEnd (w : Writers) (s : Scope) (r : ChangedRows) (c : Option Condition) : Draft :=
  w.whereClause s c ++
    Draft.onlyIf (!r.needsKey s)
      (w.orderBy s r.orderBy ++
        Draft.ofOption (fun n => s.clause "LIMIT " ++ Draft.rowCount n) r.limit?)

/-! ### Updates -/

/-- The engine can assign a row. Oracle takes one from a query only. -/
def assignsRow (s : Scope) (source : RowSource) : Bool :=
  s.has Feature.rowAssignment || match source with
    | .query _ => s.family == .oracle
    | .row _ => false

/-- The row that is assigned. -/
def rowSource (w : Writers) (s : Scope) (source : RowSource) : Draft :=
  match source with
  | .row r => w.row s r
  | .query q => w.subquery s q

/-- Assignments of columns. -/
def columnAssignments (w : Writers) (s : Scope) (a : Assignment) : Draft :=
  .bind a.expand fun pairs =>
    .commas (pairs.map fun (c, e) => Draft.unqualified c ++ " = " ++ w.expr s e)

/-- An assignment. -/
def assignment (w : Writers) (s : Scope) (a : Assignment) : Draft :=
  match a with
  | .row columns source =>
    if assignsRow s source then
      "(" ++ Draft.unqualifiedNames columns ++ ") = " ++ w.rowSource s source
    else
      w.columnAssignments s a
  | .column _ _ => w.columnAssignments s a

/-- An update of the rows that meet a condition. -/
def updateWhere (w : Writers) (s : Scope) (u : Update) (r : ChangedRows) (c : Option Condition) :
    Draft :=
  let others := (u.table :: u.tables).flatMap (Table.absorbed s.dialect)
  "UPDATE " ++ w.table s.absorbing u.table ++ s.clause "SET " ++
    Draft.commas (u.assignments.map (w.assignment s)) ++ w.output s "INSERTED" u.returning ++
    Draft.onlyIf (!u.tables.isEmpty) (s.clause "FROM " ++ w.tables s u.tables) ++
    w.changeEnd s r (Condition.joined c others) ++
    w.returning s Feature.updateReturning u.returning

/-- An update. -/
def update (w : Writers) (s : Scope) (u : Update) : Draft :=
  let r : ChangedRows := ⟨u.filter?, u.orderBy, u.limit?⟩
  -- the policy comes before what the engine lacks
  s.target.wholeUpdate.check "UPDATE" u.filter?
    (if !u.tables.isEmpty && !s.has Feature.updateFrom then s.refuse "UPDATE .. FROM"
      else .bind (r.condition s u.table) (w.updateWhere s u r))

/-! ### Deletes -/

/-- The condition that there are rows of further tables that meet the condition of a delete. -/
def deleteCondition (s : Scope) (d : Delete) : Option Condition :=
  if d.tables.isEmpty || s.has Feature.deleteUsing then d.filter?
  else some (.hasRows { fields := [⟨.number 1, none⟩], tables := d.tables, filter? := d.filter? }
    false)

/-- The tables of a delete. MySQL refers to the table in front and introduces it among the others
in `USING`. -/
def deleteTables (w : Writers) (s : Scope) (d : Delete) (using_ : List Table)
    (byReference : Bool) : Draft :=
  (if byReference then w.table { s with declareTables := false } d.table
    else w.table s.absorbing d.table) ++
    w.output s "DELETED" d.returning ++
    Draft.onlyIf (!using_.isEmpty) (s.clause "USING " ++ w.tables s using_)

/-- A delete of the rows that meet a condition. -/
def deleteWhere (w : Writers) (s : Scope) (d : Delete) (r : ChangedRows) (c : Option Condition) :
    Draft :=
  let using_ := if s.has Feature.deleteUsing then d.tables else []
  let byReference := !using_.isEmpty && (s.family == .mySql || s.family == .mariaDb)
  -- the table itself is introduced here, and its conditions are collected with the others
  let using_ := if byReference then d.table :: using_ else using_
  let introduced := if byReference then using_ else d.table :: using_
  "DELETE FROM " ++ w.deleteTables s d using_ byReference ++
    w.changeEnd s r
      (Condition.joined c (introduced.flatMap (Table.absorbed s.dialect))) ++
    w.returning s Feature.deleteReturning d.returning

/-- A delete. -/
def delete (w : Writers) (s : Scope) (d : Delete) : Draft :=
  let r : ChangedRows := ⟨deleteCondition s d, d.orderBy, d.limit?⟩
  s.target.wholeDelete.check "DELETE" d.filter?
    (.bind (r.condition s d.table) (w.deleteWhere s d r))

end Writers

end Polysql

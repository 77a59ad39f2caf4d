import Polysql.Draft.Change
import Polysql.Proofs.Formatter.Select
/-!
Inserts, updates and deletes on a formatter. What is returned leaves qualifiers out; the joins of an
update or a delete are collected and taken over by its condition. MySQL only refers to the table of
a delete with further tables: what such a reference leaves to a condition stays with the formatter.
-/

namespace Polysql

namespace Formatters

section

variable (m : Formatters)

/-! ### What is returned -/

/-- What an `OUTPUT` clause names. -/
def outputItem (rows : String) (e : Expr) : Formatting Unit :=
  match e with
  | .field name _ => rows ++ "." ++ Formatting.lastPart name
  | .asterisk _ => rows ++ ".*"
  | e => .within .unqualified (m.expr e)

/-- An `OUTPUT` clause, on engines that have it. -/
def output (rows : String) (returning : List Expr) : Formatting Unit := .asking fun s =>
  .onlyIf (!returning.isEmpty && s.has Feature.outputClause)
    (" OUTPUT " ++ .commas (returning.map (m.outputItem rows)))

/-- A `RETURNING` clause, on engines without an `OUTPUT` clause. -/
def returning (supported : DialectSet) (es : List Expr) : Formatting Unit := .asking fun s =>
  if es.isEmpty || s.has Feature.outputClause then .empty
  else if s.has supported then .clause "RETURNING " ++ .within .unqualified (m.exprs es)
  else .refuse "RETURNING"

/-! ### Inserts -/

/-- The columns of an insert in parentheses. -/
def columnList (columns : List Name) : Formatting Unit :=
  " (" ++ .lastParts columns ++ ")"

/-- The columns of an insert, if there are any. -/
def insertColumns (columns : List Name) : Formatting Unit :=
  .onlyIf (!columns.isEmpty) (columnList columns)

/-- The rows of an insert. -/
def insertRows (rows : List Row) : Formatting Unit := .asking fun s =>
  match rows with
  | r :: r' :: rs =>
    if s.has Feature.singleRowInsert then
      " " ++ m.select ((Select.ofRow r).unionAll ((r' :: rs).map Select.ofRow))
    else
      " VALUES " ++ Formatting.commas (rows.map m.row)
  | rows => " VALUES " ++ Formatting.commas (rows.map m.row)

/-- An insert of defaults, column by column. -/
def defaultRow (i : Insert) : Formatting Unit := .asking fun s =>
  let columns := if i.columns.isEmpty then Writers.knownColumns s i.table else i.columns
  if columns.isEmpty then
    .fail (.invalidStatement
      ("DEFAULT VALUES on " ++ s.dialect.name ++ " needs the table's columns from the catalog"))
  else
    columnList columns ++ m.output "INSERTED" i.returning ++
      " VALUES (" ++ Formatting.commas (columns.map fun _ => "DEFAULT") ++ ")"

/-- An insert of defaults. -/
def insertDefaults (i : Insert) : Formatting Unit := .asking fun s =>
  let output := m.output "INSERTED" i.returning
  if i.columns.isEmpty && (s.family == .mySql || s.family == .mariaDb) then
    " ()" ++ output ++ " VALUES ()"
  else if i.columns.isEmpty && s.has Feature.defaultValues then
    output ++ " DEFAULT VALUES"
  else
    m.defaultRow i

/-- What an insert adds. -/
def insertSource (i : Insert) : Formatting Unit :=
  let columns := insertColumns i.columns ++ m.output "INSERTED" i.returning
  match i.source with
  | .values rows => columns ++ m.insertRows rows
  | .query q => columns ++ " " ++ m.select q
  | .defaults => m.insertDefaults i

/-- An insert that fits together. -/
def insertValid (i : Insert) : Formatting Unit := .asking fun s =>
  let atEnd := i.skipConflicts && s.has Feature.onConflict
  if i.skipConflicts && !atEnd && !s.has Feature.insertIgnore then
    .refuse "ON CONFLICT DO NOTHING"
  else
    "INSERT " ++ Formatting.onlyIf (i.skipConflicts && !atEnd) "IGNORE " ++ "INTO " ++
      Formatting.qualified i.table ++ m.insertSource i ++
      Formatting.onlyIf atEnd " ON CONFLICT DO NOTHING" ++
      m.returning Feature.insertReturning i.returning

/-- An insert. -/
def insert (i : Insert) : Formatting Unit :=
  .ofResult i.validate fun _ => m.insertValid i

/-! ### Changes of rows -/

/-- Goes on unless the policy forbids a change of a whole table. -/
def ifAllowed (p : WholeTablePolicy) (kind : String) (filter? : Option Condition)
    (r : Formatting Unit) : Formatting Unit :=
  if p = .refuse ∧ filter?.isNone then
    .fail (.ofCause (.policy (kind ++ " without a WHERE clause")))
  else
    r

/-- The end of a change: its condition, and its order and limit unless the condition contains
them. -/
def changeEnd (r : ChangedRows) (c : Option Condition) : Formatting Unit := .asking fun s =>
  m.whereClause c ++
    Formatting.onlyIf (!r.needsKey s)
      (m.orderBy r.orderBy ++
        Formatting.ofOption (fun n => .clause "LIMIT " ++ rowCount n) r.limit?)

/-- Further tables of a change, and the conditions that take over their joins. -/
def furtherTables (keyword : String) (ts : List Table) : Formatting (List Condition) :=
  if ts.isEmpty then
    return []
  else do
    Formatting.clause keyword
    m.tables ts

/-! ### Updates -/

/-- The row that is assigned. -/
def rowSource (source : RowSource) : Formatting Unit :=
  match source with
  | .row r => m.row r
  | .query q => m.subquery q

/-- Assignments of columns. -/
def columnAssignments (a : Assignment) : Formatting Unit :=
  .ofResult a.expand fun pairs =>
    .commas (pairs.map fun (c, e) => Formatting.lastPart c ++ " = " ++ m.expr e)

/-- An assignment. -/
def assignment (a : Assignment) : Formatting Unit := .asking fun s =>
  match a with
  | .row columns source =>
    if Writers.assignsRow s source then
      "(" ++ Formatting.lastParts columns ++ ") = " ++ m.rowSource source
    else
      m.columnAssignments a
  | .column _ _ => m.columnAssignments a

/-- An update of the rows that meet a condition. -/
def updateWhere (u : Update) (r : ChangedRows) (c : Option Condition) : Formatting Unit := do
  Formatting.text "UPDATE "
  let joins ← .collecting (m.table u.table)
  Formatting.clause "SET " ++ .commas (u.assignments.map m.assignment) ++
    m.output "INSERTED" u.returning
  let further ← m.furtherTables "FROM " u.tables
  m.changeEnd r (Condition.joined c (joins ++ further)) ++
    m.returning Feature.updateReturning u.returning

/-- An update. -/
def update (u : Update) : Formatting Unit := .asking fun s =>
  let r : ChangedRows := ⟨u.filter?, u.orderBy, u.limit?⟩
  ifAllowed s.target.wholeUpdate "UPDATE" u.filter?
    (if !u.tables.isEmpty && !s.has Feature.updateFrom then .refuse "UPDATE .. FROM"
      else .ofResult (r.condition s u.table) (m.updateWhere u r))

/-! ### Deletes -/

/-- The table of a delete, and the conditions that take over its joins unless it is only referred
to. -/
def deleteTarget (t : Table) (byReference : Bool) : Formatting (List Condition) :=
  if byReference then do
    Formatting.within .referring (m.table t)
    return []
  else
    .collecting (m.table t)

/-- A delete with further tables. -/
def deleteFrom (d : Delete) (r : ChangedRows) (c : Option Condition) (using_ : List Table)
    (byReference : Bool) : Formatting Unit := do
  Formatting.text "DELETE FROM "
  let joins ← m.deleteTarget d.table byReference
  m.output "DELETED" d.returning
  let further ← m.furtherTables "USING " using_
  m.changeEnd r (Condition.joined c (joins ++ further)) ++
    m.returning Feature.deleteReturning d.returning

/-- A delete of the rows that meet a condition. -/
def deleteWhere (d : Delete) (r : ChangedRows) (c : Option Condition) : Formatting Unit :=
  .asking fun s =>
    let using_ := if s.has Feature.deleteUsing then d.tables else []
    let byReference := !using_.isEmpty && (s.family == .mySql || s.family == .mariaDb)
    m.deleteFrom d r c (if byReference then d.table :: using_ else using_) byReference

/-- A delete. -/
def delete (d : Delete) : Formatting Unit := .asking fun s =>
  let r : ChangedRows := ⟨Writers.deleteCondition s d, d.orderBy, d.limit?⟩
  ifAllowed s.target.wholeDelete "DELETE" d.filter?
    (.ofResult (r.condition s d.table) (m.deleteWhere d r))

end

section

variable {s : Scope}

@[grind ←]
lemma renders_columnList (columns : List Name) :
    (columnList columns).Renders s (Writers.columnList columns) := by
  rw [columnList, Writers.columnList]
  grind

@[grind ←]
lemma renders_insertColumns (columns : List Name) :
    (insertColumns columns).Renders s (Writers.insertColumns columns) := by
  rw [insertColumns, Writers.insertColumns]
  grind

lemma writes_ifAllowed {p : WholeTablePolicy} {kind : String} {filter? : Option Condition}
    {r : Formatting Unit} {d : Draft} (h : r.Writes s d) :
    (ifAllowed p kind filter? r).Writes s (p.check kind filter? d) := by
  rw [Formatters.ifAllowed, WholeTablePolicy.check]
  split
  · exact (Formatting.renders_fail _).writes
  · exact h

end

namespace Follows

variable {m : Formatters} {w : Writers} (h : m.Follows w) (s : Scope)
include h

/-! ### What is returned -/

@[grind ←]
lemma outputItem (rows : String) (e : Expr) :
    (m.outputItem rows e).Renders s (w.outputItem s rows e) := by
  rw [Formatters.outputItem.eq_def, Writers.outputItem.eq_def]
  split <;> grind

@[grind ←]
lemma output (rows : String) (returning : List Expr) :
    (m.output rows returning).Renders s (w.output s rows returning) := by
  rw [Formatters.output, Writers.output]
  grind

@[grind ←]
lemma exprs_unqualified (es : List Expr) :
    (Formatting.within .unqualified (m.exprs es)).Renders s (w.exprs s.unqualified es) :=
  (h.exprs s.unqualified es).unqualified

@[grind ←]
lemma returning (supported : DialectSet) (es : List Expr) :
    (m.returning supported es).Renders s (w.returning s supported es) := by
  rw [Formatters.returning, Writers.returning]
  refine .asking ?_
  split <;> grind

/-! ### Inserts -/

@[grind ←]
lemma insertRows (rows : List Row) : (m.insertRows rows).Renders s (w.insertRows s rows) := by
  rw [Formatters.insertRows, Writers.insertRows.eq_def]
  refine .asking ?_
  split <;> grind

@[grind ←]
lemma defaultRow (i : Insert) : (m.defaultRow i).Renders s (w.defaultRow s i) := by
  rw [Formatters.defaultRow, Writers.defaultRow]
  refine .asking ?_
  split <;> grind

@[grind ←]
lemma insertDefaults (i : Insert) :
    (m.insertDefaults i).Renders s (w.insertDefaults s i) := by
  rw [Formatters.insertDefaults, Writers.insertDefaults]
  refine .asking ?_
  split <;> grind

@[grind ←]
lemma insertSource (i : Insert) : (m.insertSource i).Renders s (w.insertSource s i) := by
  rw [Formatters.insertSource, Writers.insertSource]
  grind

@[grind ←]
lemma insertValid (i : Insert) : (m.insertValid i).Renders s (w.insertValid s i) := by
  rw [Formatters.insertValid, Writers.insertValid]
  refine .asking ?_
  split <;> grind

lemma insert (i : Insert) : (m.insert i).Renders s (w.insert s i) := by
  rw [Formatters.insert, Writers.insert]
  grind

/-! ### Changes of rows -/

@[grind ←]
lemma changeEnd (r : ChangedRows) (c : Option Condition) :
    (m.changeEnd r c).Renders s (w.changeEnd s r c) := by
  rw [Formatters.changeEnd, Writers.changeEnd]
  grind

lemma collectedTable (t : Table) :
    (Formatting.collecting (m.table t)).Yields s (w.table s.absorbing t) []
      (t.absorbed s.dialect) :=
  (h.table s.absorbing t).collecting

lemma furtherTables (keyword : String) (ts : List Table) :
    (m.furtherTables keyword ts).Yields s
      (.onlyIf (!ts.isEmpty) (s.clause keyword ++ w.tables s ts)) []
      (ts.flatMap (Table.absorbed s.dialect)) := by
  rw [Formatters.furtherTables]
  cases ts with
  | nil => exact Formatting.yields_pure []
  | cons t ts => exact (Formatting.renders_clause keyword).bind (h.tables s (t :: ts))

/-! ### Updates -/

@[grind ←]
lemma rowSource (source : RowSource) :
    (m.rowSource source).Renders s (w.rowSource s source) := by
  rw [Formatters.rowSource.eq_def, Writers.rowSource.eq_def]
  grind

@[grind ←]
lemma columnAssignments (a : Assignment) :
    (m.columnAssignments a).Renders s (w.columnAssignments s a) := by
  rw [Formatters.columnAssignments, Writers.columnAssignments]
  grind

@[grind ←]
lemma assignment (a : Assignment) : (m.assignment a).Renders s (w.assignment s a) := by
  rw [Formatters.assignment, Writers.assignment.eq_def]
  grind

/-- The condition of an update takes over the joins of all its tables, those of the updated one
first. -/
lemma updateWhere (u : Update) (r : ChangedRows) (c : Option Condition) :
    (m.updateWhere u r c).Renders s (w.updateWhere s u r c) := by
  have hset : Formatting.Renders
      (.clause "SET " ++ .commas (u.assignments.map m.assignment) ++
        m.output "INSERTED" u.returning) s
      (s.clause "SET " ++ .commas (u.assignments.map (w.assignment s)) ++
        w.output s "INSERTED" u.returning) := by
    grind
  have hend (c : Option Condition) : Formatting.Renders
      (m.changeEnd r c ++ m.returning Feature.updateReturning u.returning) s
      (w.changeEnd s r c ++ w.returning s Feature.updateReturning u.returning) := by
    grind
  -- the parts, in the order in which they are emitted
  have hupdate : (m.updateWhere u r c).Renders s _ :=
    (Formatting.renders_text "UPDATE ").bind ((h.collectedTable s u.table).bind
      (hset.bind ((h.furtherTables s "FROM " u.tables).bind (hend _))))
  rw [Writers.updateWhere, List.flatMap_cons]
  simpa only [Draft.append_assoc] using hupdate

lemma update (u : Update) : (m.update u).Writes s (w.update s u) := by
  rw [Formatters.update, Writers.update]
  refine .asking (writes_ifAllowed ?_)
  split
  · exact (Formatting.renders_refuse _).writes
  · exact .ofResult (fun c => (h.updateWhere s u _ c).writes) _

/-! ### Deletes -/

/-- What the table of a delete leaves to a condition is collected, or stays with the formatter if
the table is only referred to. -/
lemma deleteTarget (t : Table) (byReference : Bool) :
    ∃ kept, (m.deleteTarget t byReference).Yields s
      (if byReference then w.table { s with declareTables := false } t
        else w.table s.absorbing t) kept
      (if byReference then [] else t.absorbed s.dialect) := by
  cases byReference with
  | false => exact ⟨[], h.collectedTable s t⟩
  | true =>
    have hreference := Formatting.Yields.within Change.takenBack_referring
      (h.table { s with declareTables := false } t)
    have hlast : (m.deleteTarget t true).Yields s _ _ [] :=
      hreference.bind (Formatting.yields_pure [])
    rw [Draft.append_empty] at hlast
    exact ⟨_, hlast⟩

/-- The condition of a delete takes over the joins of the tables it introduces. -/
lemma deleteFrom (d : Delete) (r : ChangedRows) (c : Option Condition) (using_ : List Table)
    (byReference : Bool) :
    (m.deleteFrom d r c using_ byReference).Writes s
      ("DELETE FROM " ++ w.deleteTables s d using_ byReference ++
        w.changeEnd s r (Condition.joined c
          ((if byReference then using_ else d.table :: using_).flatMap
            (Table.absorbed s.dialect))) ++
        w.returning s Feature.deleteReturning d.returning) := by
  obtain ⟨kept, htarget⟩ := h.deleteTarget s d.table byReference
  have hend (c : Option Condition) : Formatting.Renders
      (m.changeEnd r c ++ m.returning Feature.deleteReturning d.returning) s
      (w.changeEnd s r c ++ w.returning s Feature.deleteReturning d.returning) := by
    grind
  have hdelete : (m.deleteFrom d r c using_ byReference).Yields s _ _ () :=
    (Formatting.renders_text "DELETE FROM ").bind (htarget.bind
      ((h.output s "DELETED" d.returning).bind ((h.furtherTables s "USING " using_).bind
        (hend _))))
  -- the joins of the table itself are taken out of the list only if it stands in the list
  have hjoins : (if byReference then [] else d.table.absorbed s.dialect) ++
      using_.flatMap (Table.absorbed s.dialect) =
        (if byReference then using_ else d.table :: using_).flatMap
          (Table.absorbed s.dialect) := by
    cases byReference <;> rfl
  rw [hjoins] at hdelete
  rw [Writers.deleteTables]
  exact ⟨_, by simpa only [Draft.append_assoc] using hdelete⟩

lemma deleteWhere (d : Delete) (r : ChangedRows) (c : Option Condition) :
    (m.deleteWhere d r c).Writes s (w.deleteWhere s d r c) :=
  .asking (h.deleteFrom s d r c _ _)

lemma delete (d : Delete) : (m.delete d).Writes s (w.delete s d) := by
  rw [Formatters.delete, Writers.delete]
  exact .asking (writes_ifAllowed (.ofResult (h.deleteWhere s d _) _))

end Follows

end Formatters

end Polysql

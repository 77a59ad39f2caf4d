import Polysql.Draft.Select
/-!
Drafts of inserts, and of what a change of rows returns. Engines return rows by a clause at the end
or by an `OUTPUT` clause before the rows; either way the columns are written without their table.
-/

namespace Polysql

namespace Scope

/-- The place where columns leave their qualifier out. -/
def unqualified (s : Scope) : Scope :=
  { s with qualify := false }

end Scope

namespace Writers

/-- What an `OUTPUT` clause names: columns belong to the table of new or of removed rows. -/
def outputItem (w : Writers) (s : Scope) (rows : String) (e : Expr) : Draft :=
  match e with
  | .field name _ => rows ++ "." ++ Draft.unqualified name
  | .asterisk _ => rows ++ ".*"
  | e => w.expr s.unqualified e

/-- An `OUTPUT` clause, on engines that have it. -/
def output (w : Writers) (s : Scope) (rows : String) (returning : List Expr) : Draft :=
  .onlyIf (!returning.isEmpty && s.has Feature.outputClause)
    (" OUTPUT " ++ .commas (returning.map (w.outputItem s rows)))

/-- A `RETURNING` clause, on engines without an `OUTPUT` clause. -/
def returning (w : Writers) (s : Scope) (supported : DialectSet) (es : List Expr) : Draft :=
  if es.isEmpty || s.has Feature.outputClause then Draft.empty
  else if s.has supported then s.clause "RETURNING " ++ w.exprs s.unqualified es
  else s.refuse "RETURNING"

/-- The columns of an insert in parentheses. -/
def columnList (columns : List Name) : Draft :=
  " (" ++ Draft.unqualifiedNames columns ++ ")"

/-- The columns of an insert, if there are any. -/
def insertColumns (columns : List Name) : Draft :=
  .onlyIf (!columns.isEmpty) (columnList columns)

/-- The rows of an insert. Where only one row can be written, several become a query. -/
def insertRows (w : Writers) (s : Scope) (rows : List Row) : Draft :=
  match rows with
  | r :: r' :: rs =>
    if s.has Feature.singleRowInsert then
      " " ++ w.select s ((Select.ofRow r).unionAll ((r' :: rs).map Select.ofRow))
    else
      " VALUES " ++ Draft.commas (rows.map (w.row s))
  | rows => " VALUES " ++ Draft.commas (rows.map (w.row s))

/-- The columns of a table as far as they are known. -/
def knownColumns (s : Scope) (table : Name) : List Name :=
  (s.tableInfo? table).elim [] fun t => columnNames (t.columns.map ColumnInfo.name)

/-- An insert of defaults, column by column. -/
def defaultRow (w : Writers) (s : Scope) (i : Insert) : Draft :=
  let columns := if i.columns.isEmpty then knownColumns s i.table else i.columns
  if columns.isEmpty then
    .fail (.invalidStatement
      ("DEFAULT VALUES on " ++ s.dialect.name ++ " needs the table's columns from the catalog"))
  else
    columnList columns ++ w.output s "INSERTED" i.returning ++
      " VALUES (" ++ Draft.commas (columns.map fun _ => "DEFAULT") ++ ")"

/-- An insert of defaults. -/
def insertDefaults (w : Writers) (s : Scope) (i : Insert) : Draft :=
  let output := w.output s "INSERTED" i.returning
  if i.columns.isEmpty && (s.family == .mySql || s.family == .mariaDb) then
    " ()" ++ output ++ " VALUES ()"
  else if i.columns.isEmpty && s.has Feature.defaultValues then
    output ++ " DEFAULT VALUES"
  else
    w.defaultRow s i

/-- What an insert adds. -/
def insertSource (w : Writers) (s : Scope) (i : Insert) : Draft :=
  let columns := insertColumns i.columns ++ w.output s "INSERTED" i.returning
  match i.source with
  | .values rows => columns ++ w.insertRows s rows
  | .query q => columns ++ " " ++ w.select s q
  | .defaults => w.insertDefaults s i

/-- An insert that fits together. -/
def insertValid (w : Writers) (s : Scope) (i : Insert) : Draft :=
  let atEnd := i.skipConflicts && s.has Feature.onConflict
  if i.skipConflicts && !atEnd && !s.has Feature.insertIgnore then
    s.refuse "ON CONFLICT DO NOTHING"
  else
    "INSERT " ++ Draft.onlyIf (i.skipConflicts && !atEnd) "IGNORE " ++ "INTO " ++
      Draft.qualified i.table ++ w.insertSource s i ++
      Draft.onlyIf atEnd " ON CONFLICT DO NOTHING" ++
      w.returning s Feature.insertReturning i.returning

/-- An insert. -/
def insert (w : Writers) (s : Scope) (i : Insert) : Draft :=
  .bind i.validate fun _ => w.insertValid s i

end Writers

end Polysql

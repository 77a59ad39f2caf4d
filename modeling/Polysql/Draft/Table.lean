import Polysql.Draft.Condition
import Polysql.Query.Rows
/-!
Drafts of tables other than joins. A table that the engine cannot write is replaced by a query in
parentheses under the same alias.
-/

namespace Polysql

namespace Family

/-- The table of one row. -/
def dual : Family → String
  | .oracle | .mySql | .mariaDb => "DUAL"
  | .db2 => "SYSIBM.DUAL"
  | .derby => "SYSIBM.SYSDUMMY1"
  | .firebird => "RDB$DATABASE"
  | .hsqldb => "(VALUES (1)) AS dual(dual)"
  | .cubrid => "db_root"
  | .hana => "DUMMY"
  | _ => "(SELECT 1) AS dual"

end Family

namespace Dialect

/-- A query without tables has to name the table of one row. MySQL asks for it only when there is a
condition. -/
def needsDual (d : Dialect) (filtered : Bool) : Bool :=
  match d.family with
  | .oracle => d.precedes .oracle23ai
  | .db2 | .derby | .firebird | .hsqldb | .cubrid | .hana => true
  | .mySql | .mariaDb => filtered
  | _ => false

end Dialect

namespace Draft

/-- The alias of a table, with names for its columns if there are any. -/
def tableAlias (s : Scope) (name : Name) (columns : List Name) : Draft :=
  (if s.has Feature.bareTableAlias then " " else " AS ") ++ unqualified name ++
    onlyIf (!columns.isEmpty) ("(" ++ unqualifiedNames columns ++ ")")

/-- A table of the database. -/
def namedTable (s : Scope) (t : NamedTable) : Draft :=
  if s.declareTables then
    qualified t.name ++ ofOption (fun a => tableAlias s a []) t.alias?
  else
    qualified t.reference

end Draft

namespace Writers

/-- A query under a name. -/
def aliasedQuery (w : Writers) (s : Scope) (q : Select) (name : Name) : Draft :=
  w.subquery s q ++ Draft.tableAlias s name []

/-- The rows of a query. -/
def derived (w : Writers) (s : Scope) (q : Select) (called : TableAlias) : Draft :=
  if called.columns.isEmpty || s.has Feature.aliasColumns then
    w.subquery s q ++ Draft.tableAlias s called.name called.columns
  else
    w.aliasedQuery s (q.renamed called.name called.columns) called.name

/-- Rows that are written out. -/
def valuesTable (w : Writers) (s : Scope) (rows : List Row) (called : TableAlias) : Draft :=
  let columns := called.valuesColumns rows
  let written (rows : List Draft) :=
    "(VALUES " ++ Draft.commas rows ++ ")" ++ Draft.tableAlias s called.name columns
  if rows.isEmpty then
    w.aliasedQuery s (.ofRows rows columns) called.name
  else if s.has Feature.valuesTable then
    written (rows.map (w.row s))
  else if s.has Feature.valuesOfRows then
    written (rows.map fun r => "ROW" ++ w.row s r)
  else
    w.aliasedQuery s (.ofRows rows columns) called.name

/-- A row for every element. -/
def unnest (w : Writers) (s : Scope) (elements : List Expr) (called : TableAlias)
    (ordinality : Bool) : Draft :=
  let columns := called.unnestColumns ordinality
  if elements.isEmpty || !s.has Feature.unnest then
    w.aliasedQuery s (.ofRows (unnestRows elements ordinality) columns) called.name
  else
    "UNNEST(ARRAY[" ++ w.exprs s elements ++ "])" ++
      Draft.onlyIf ordinality " WITH ORDINALITY" ++ Draft.tableAlias s called.name columns

/-- The rows of functions, side by side. -/
def rowsFrom (w : Writers) (s : Scope) (functions : List Call) (called : TableAlias) : Draft :=
  if s.has Feature.rowsFrom then
    "ROWS FROM (" ++ Draft.commas (functions.map (w.call s)) ++ ")" ++
      Draft.tableAlias s called.name called.columns
  else
    s.refuse "ROWS FROM"

/-- A table that can refer to those before it. -/
def lateral (w : Writers) (s : Scope) (t : Table) : Draft :=
  if s.has Feature.lateral then "LATERAL " ++ w.table s t else s.refuse "LATERAL"

end Writers

end Polysql

import Polysql.Query.Columns
/-!
Queries that yield given rows. Where an engine has no tables of written out rows, such a query takes
their place: one `SELECT` per row, the first of which names the columns.
-/

namespace Polysql

namespace Select

/-- A query of no rows that has the given columns. -/
def withoutRows (columns : List Name) : Select :=
  let nulls : Select := columns.foldl (fun q c => fieldAs q (.literal .null) c) {}
  (nulls.table .dual).filter (.equals (.number 1) (.number 0))

/-- A query of one row. -/
def ofRow (r : Row) : Select :=
  (({} : Select).addFields r).table .dual

/-- A query of one row whose values have names. -/
def ofNamedRow (r : Row) (columns : List Name) : Select :=
  table ((r.zip columns).foldl (fun q (e, c) => fieldAs q e c) {}) .dual

/-- The rows of a query, and then those of others. -/
def unionAll (q : Select) (qs : List Select) : Select :=
  qs.foldl (fun q r => q.combine .union true r) q

/-- A query of several rows. The first one names the columns. -/
def ofRows (rows : List Row) (columns : List Name) : Select :=
  match rows with
  | [] => withoutRows columns
  | r :: rs => (ofNamedRow r columns).unionAll (rs.map ofRow)

/-- The rows of a query with other names for its columns, given the name of the table it is selected
from. An empty query in front names the columns. -/
def renamed (q : Select) (table : Name) (columns : List Name) : Select :=
  let rows := (({} : Select).field (.asterisk none)).table (.derived q (.ofName table))
  (withoutRows columns).unionAll [rows]

end Select

namespace TableAlias

/-- The columns of a table of written out rows. They are numbered if they have no names. -/
def valuesColumns (a : TableAlias) (rows : List Row) : List Name :=
  if a.columns.isEmpty then numberedColumns (rows.head?.elim 0 List.length) else a.columns

end TableAlias

/-- The rows of an unnested list: each element, with its number if asked for. -/
def unnestRows (elements : List Expr) (ordinality : Bool) : List Row :=
  elements.mapIdx fun i e =>
    if ordinality then [e, .literal (.int64 (Int64.ofNat (i + 1)))] else [e]

end Polysql

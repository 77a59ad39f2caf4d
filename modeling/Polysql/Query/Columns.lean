import Polysql.Query.Build
/-!
The columns that a table is known to have, under the names a query can refer to them by, and what a
join makes of them. Natural joins and joins by column names are spelled out as conditions over these
columns, and semi and anti joins as conditions on the existence of rows.
-/

namespace Polysql

namespace NamedTable

/-- The name that qualifies the columns. -/
def reference (t : NamedTable) : Name :=
  t.alias?.getD t.name

/-- The columns, qualified. -/
def fields (t : NamedTable) : List Name :=
  t.columns.map fun c => t.reference ++ c

end NamedTable

namespace TableAlias

/-- The alias without names for columns. -/
def ofName (name : Name) : TableAlias :=
  ⟨name, []⟩

/-- Columns qualified with the alias. -/
def qualify (a : TableAlias) (columns : List Name) : List Name :=
  columns.map fun c => a.name ++ c

/-- The columns of an unnested list: the value, and its number if asked for. Names that are not
given are `value` and `ordinality`. -/
def unnestColumns (a : TableAlias) (ordinality : Bool) : List Name :=
  let columns := if a.columns.isEmpty then [Name.ofText "value"] else a.columns
  if ordinality && columns.length < 2 then columns ++ [Name.ofText "ordinality"] else columns

end TableAlias

namespace Table

/-- The columns of a table, qualified with its reference. A semi or anti join has those of its left
side, any other join those of both. -/
def fields : Table → List Name
  | .named t => t.fields
  | .derived q a => a.qualify (if a.columns.isEmpty then q.fieldNames else a.columns)
  | .join ⟨l, r, type, _, _⟩ => if type.isSemiOrAnti then l.fields else l.fields ++ r.fields
  | .values _ a => a.qualify a.columns
  | .unnest _ a ordinality => a.qualify (a.unnestColumns ordinality)
  | .rowsFrom _ a => a.qualify a.columns
  | .lateral t => t.fields
  | .dual => []

/-- The name that qualifies the columns, if there is one. -/
def reference? : Table → Option Name
  | .named t => some t.reference
  | .derived _ a | .values _ a | .unnest _ a _ | .rowsFrom _ a => some a.name
  | .lateral t => t.reference?
  | .join _ | .dual => none

/-- The tables of the database that a table is joined from, from left to right. -/
def namedTables : Table → List NamedTable
  | .named t => [t]
  | .join ⟨l, r, _, _, _⟩ => l.namedTables ++ r.namedTables
  | .lateral t => t.namedTables
  | _ => []

/-- The table of one row. -/
def isDual : Table → Bool
  | .dual => true
  | _ => false

end Table

namespace Join

/-- The columns that both sides share by their last part: each column of the left side with the
first such column of the right side. -/
def commonFields (j : Join) : List (Name × Name) :=
  j.left.fields.filterMap fun l =>
    (j.right.fields.find? fun r => l.sameUnqualified r).map fun r => (l, r)

/-- The condition of a natural join: equality of the columns that both sides share. -/
def naturalCondition (j : Join) : Condition :=
  .all (j.commonFields.map fun (l, r) => Condition.equals (.column l) (.column r))

/-- A column of one side of a join that is given by name: the known one, else the name qualified
with the reference of the side. -/
def resolve (t : Table) (column : Name) : Name :=
  match t.fields.find? fun f => f.sameUnqualified column with
  | some f => f
  | none =>
    match t.reference? with
    | some n => n ++ column
    | none => column

/-- The condition of a join by column names. -/
def usingCondition (j : Join) : Condition :=
  .all (j.using_.map fun c =>
    Condition.equals (.column (resolve j.left c)) (.column (resolve j.right c)))

/-- The condition of a join, however it is given. -/
def condition (j : Join) : Condition :=
  if j.type.isNatural then j.naturalCondition
  else if !j.using_.isEmpty then j.usingCondition
  else j.on?.getD .always

/-- A semi join as the existence of a row on the right side, an anti join as its absence. -/
def toExists (j : Join) : Condition :=
  let q : Select := { fields := [⟨.number 1, none⟩], tables := [j.right] }
  .hasRows (q.filter j.condition) (j.type == .leftAnti)

end Join

end Polysql

import Polysql.Catalog
import Polysql.Error
import Polysql.Query.Build
/-!
Statements: queries, changes of rows, definitions of tables, indexes and sequences, and blocks of
statements.
-/

namespace Polysql

/-! ### Changing rows -/

/-- Where the rows of an insert come from. -/
inductive InsertSource where
  | values (rows : List Row)
  | query (q : Select)
  /-- One row of defaults. -/
  | defaults

/-- Rows are added to a table. -/
structure Insert where
  /-- The table. -/
  table : Name
  /-- The columns that get values; all of them when there are none. -/
  columns : List Name
  /-- The rows. -/
  source : InsertSource
  /-- Rows that violate a key are passed over. -/
  skipConflicts : Bool
  /-- What is returned of the new rows. -/
  returning : List Expr

namespace Insert

/-- An insert of one row of defaults. -/
def into (table : Name) : Insert :=
  ⟨table, [], .defaults, false, []⟩

/-- A further row of values. It takes the place of a source of another kind. -/
def values (i : Insert) (row : Row) : Insert :=
  match i.source with
  | .values rows => { i with source := .values (rows ++ [row]) }
  | _ => { i with source := .values [row] }

/-- The number of values that every row must have. -/
def width (i : Insert) (rows : List Row) : Nat :=
  match i.columns, rows with
  | [], first :: _ => first.length
  | columns, _ => columns.length

/-- Every row has a value for each column. -/
def validate (i : Insert) : Except Error Unit :=
  match i.source with
  | .values rows =>
    match rows.find? fun r => r.length != i.width rows with
    | some r => .error (.rowWidth r.length (i.width rows))
    | none => .ok ()
  | _ => .ok ()

end Insert

/-- What a row of columns is assigned. -/
inductive RowSource where
  | row (r : Row)
  | query (q : Select)

/-- An assignment of an update. -/
inductive Assignment where
  | column (column : Name) (value : Expr)
  | row (columns : List Name) (source : RowSource)

namespace Assignment

/-- One assignment per column. A row taken from a query becomes a query for each column, which
selects the column that belongs to it. -/
def expand : Assignment → Except Error (List (Name × Expr))
  | .column c e => .ok [(c, e)]
  | .row columns (.row r) =>
    if r.length ≠ columns.length then
      .error (.rowWidth r.length columns.length)
    else
      .ok (columns.zip r)
  | .row columns (.query q) =>
    if q.fields.length ≠ columns.length then
      .error (.subqueryWidth q.fields.length columns.length)
    else
      .ok ((columns.zip q.fields).map fun (c, f) =>
        (c, .subquery { q with fields := [⟨f.expr, none⟩] }))

end Assignment

/-- Rows of a table are changed. -/
structure Update where
  /-- The table. -/
  table : Table
  /-- The assignments. -/
  assignments : List Assignment
  /-- Further tables that the condition can refer to. -/
  tables : List Table
  /-- The condition on rows. -/
  filter? : Option Condition
  /-- The order in which rows are changed. -/
  orderBy : List OrderItem
  /-- How many rows are changed. -/
  limit? : Option UInt64
  /-- What is returned of the changed rows. -/
  returning : List Expr

/-- An update that assigns nothing. -/
def Update.of (table : Table) : Update :=
  ⟨table, [], [], none, [], none, []⟩

/-- A further condition on rows. -/
def Update.filter (u : Update) (c : Condition) : Update :=
  { u with filter? := Condition.add u.filter? c }

/-- Rows of a table are removed. -/
structure Delete where
  /-- The table. -/
  table : Table
  /-- Further tables that the condition can refer to. -/
  tables : List Table
  /-- The condition on rows. -/
  filter? : Option Condition
  /-- The order in which rows are removed. -/
  orderBy : List OrderItem
  /-- How many rows are removed. -/
  limit? : Option UInt64
  /-- What is returned of the removed rows. -/
  returning : List Expr

/-- A delete of all rows. -/
def Delete.of (table : Table) : Delete :=
  ⟨table, [], none, [], none, []⟩

/-- A further condition on rows. -/
def Delete.filter (d : Delete) (c : Condition) : Delete :=
  { d with filter? := Condition.add d.filter? c }

/-! ### Definitions -/

/-- An index is created. -/
structure CreateIndex where
  /-- The name. -/
  name : Name
  /-- The table. -/
  table : Name
  /-- The columns and their order. -/
  columns : List (Name × Option Direction)
  /-- No two rows agree in the columns. -/
  unique : Bool
  /-- The rows that are indexed. -/
  filter? : Option Condition
  /-- An index of the name may exist already. -/
  ifNotExists : Bool

/-- An index is dropped. -/
structure DropIndex where
  /-- The name. -/
  name : Name
  /-- The table, which some engines ask for. -/
  table? : Option Name
  /-- There may be no such index. -/
  ifExists : Bool

/-- What becomes of the identities of a truncated table. -/
inductive IdentityOption where
  | restart
  | continue_
deriving DecidableEq, Repr

/-- All rows of a table are removed. -/
structure Truncate where
  /-- The table. -/
  table : Name
  /-- What becomes of its identities. -/
  identity? : Option IdentityOption
  /-- Tables that refer to it are truncated as well. -/
  cascade : Bool

/-- A sequence is created. -/
structure CreateSequence where
  /-- The name. -/
  name : Name
  /-- The first value. -/
  start? : Option Int64
  /-- The distance of two values. -/
  increment? : Option Int64
  /-- The least value. -/
  least? : Option Int64
  /-- The greatest value. -/
  greatest? : Option Int64
  /-- The sequence starts over at its end. -/
  cycle : Bool
  /-- How many values are prepared. -/
  cache? : Option UInt64
  /-- A sequence of the name may exist already. -/
  ifNotExists : Bool

/-- A sequence is dropped. -/
structure DropSequence where
  /-- The name. -/
  name : Name
  /-- There may be no such sequence. -/
  ifExists : Bool

/-- A column of a new table. -/
structure ColumnDefinition where
  /-- The name. -/
  name : Name
  /-- The type. -/
  type : DataType
  /-- The column cannot hold NULL. -/
  notNull : Bool
  /-- The value when none is given. -/
  default? : Option Expr

/-- A table is created. -/
structure CreateTable where
  /-- The name. -/
  name : Name
  /-- The columns. -/
  columns : List ColumnDefinition
  /-- The columns of the primary key. -/
  primaryKey : List Name
  /-- A table of the name may exist already. -/
  ifNotExists : Bool

/-- A table that is known, with its columns. -/
def Table.ofInfo (t : TableInfo) : Table :=
  .named ⟨t.name, none, columnNames (t.columns.map ColumnInfo.name)⟩

/-- The statement that creates a table like one that is known. -/
def CreateTable.like (t : TableInfo) : CreateTable :=
  { name := t.name
    columns := t.columns.map fun c => ⟨Name.ofText c.name, c.type, !c.nullable, none⟩
    primaryKey := columnNames (t.primaryKey?.toList.flatMap Key.columns)
    ifNotExists := false }

/-- A table is dropped. -/
structure DropTable where
  /-- The name. -/
  name : Name
  /-- There may be no such table. -/
  ifExists : Bool
  /-- What depends on the table is dropped as well. -/
  cascade : Bool

/-! ### Statements -/

mutual

/-- A statement. -/
inductive Statement where
  | select (q : Select)
  | insert (i : Insert)
  | update (u : Update)
  | delete (d : Delete)
  | createIndex (c : CreateIndex)
  | dropIndex (d : DropIndex)
  | truncate (t : Truncate)
  | createSequence (c : CreateSequence)
  | dropSequence (d : DropSequence)
  | createTable (c : CreateTable)
  | dropTable (d : DropTable)
  | block (b : Block)

/-- Statements that are run one after the other. -/
structure Block where
  /-- The name of the procedure that stands for the block where there are no blocks. -/
  name : String
  /-- The statements. -/
  statements : List Statement

end

instance : Inhabited Statement := ⟨.select {}⟩

namespace Statement

/-- What kind of statement it is. -/
def kind : Statement → String
  | select _ => "SELECT"
  | insert _ => "INSERT"
  | update _ => "UPDATE"
  | delete _ => "DELETE"
  | createIndex _ => "CREATE INDEX"
  | dropIndex _ => "DROP INDEX"
  | truncate _ => "TRUNCATE"
  | createSequence _ => "CREATE SEQUENCE"
  | dropSequence _ => "DROP SEQUENCE"
  | createTable _ => "CREATE TABLE"
  | dropTable _ => "DROP TABLE"
  | block _ => "BLOCK"

mutual

/-- The statement does something: an update assigns something, and a block has a statement that does
something. -/
def isExecutable : Statement → Bool
  | update u => !u.assignments.isEmpty
  | block ⟨_, ss⟩ => anyExecutable ss
  | _ => true

/-- Some statement does something. -/
def anyExecutable : List Statement → Bool
  | [] => false
  | s :: ss => s.isExecutable || anyExecutable ss

end

/-- The statement defines something in the database, or empties a table. -/
def isDefinition : Statement → Bool
  | createIndex _ | dropIndex _ | truncate _ | createSequence _ | dropSequence _ | createTable _
  | dropTable _ => true
  | _ => false

end Statement

end Polysql

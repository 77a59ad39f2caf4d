import Polysql.DataType
import Polysql.Name
/-!
What is known of the database: its schemas with their tables, keys and sequences. Tables and
sequences are registered under names qualified with their schema, and looked up by a name that may
leave the schema out.
-/

namespace Polysql

/-- A column of a table in the database. -/
structure ColumnInfo where
  /-- The name. -/
  name : String
  /-- The type. -/
  type : DataType
  /-- The column can hold NULL. -/
  nullable : Bool
  /-- The database supplies a value when none is given. -/
  hasDefault : Bool

/-- A key: columns that identify a row. -/
structure Key where
  /-- The name. -/
  name : String
  /-- The columns. -/
  columns : List String

/-- A foreign key of a table. -/
structure ForeignKey where
  /-- The name. -/
  name : String
  /-- The columns that refer. -/
  columns : List String
  /-- The table referred to. -/
  target : Name
  /-- The columns referred to. -/
  targetColumns : List String

/-- A table in the database. -/
structure TableInfo where
  /-- The name, qualified with the schema once the table is registered. -/
  name : Name
  /-- The columns, in their order. -/
  columns : List ColumnInfo
  /-- The primary key. -/
  primaryKey? : Option Key
  /-- The unique keys. -/
  uniqueKeys : List Key
  /-- The foreign keys. -/
  foreignKeys : List ForeignKey

namespace TableInfo

/-- The column of a name, in any ASCII case. -/
def column? (t : TableInfo) (name : String) : Option ColumnInfo :=
  t.columns.find? fun c => Text.sameIgnoringCase c.name name

/-- The key that identifies a row: the primary key, else the first unique key. -/
def identifyingKey? (t : TableInfo) : Option Key :=
  t.primaryKey?.or t.uniqueKeys.head?

/-- The foreign keys that refer to another table. -/
def references (t u : TableInfo) : List ForeignKey :=
  t.foreignKeys.filter fun k => k.target.sameUnqualified u.name

end TableInfo

/-- A sequence in the database. -/
structure SequenceInfo where
  /-- The name, qualified with the schema once the sequence is registered. -/
  name : Name
  /-- The first number. -/
  start? : Option Int64
  /-- From one number to the next. -/
  increment? : Option Int64

/-- A sequence of which nothing but its name is said. -/
def SequenceInfo.ofName (name : Name) : SequenceInfo :=
  ⟨name, none, none⟩

/-- A schema of the database. -/
structure Schema where
  /-- The name. -/
  name : Name
  /-- The tables, as they were registered. -/
  tables : List TableInfo
  /-- The sequences, as they were registered. -/
  sequences : List SequenceInfo

namespace Schema

/-- A schema without tables. -/
def ofName (name : Name) : Schema :=
  ⟨name, [], []⟩

/-- A name of an object of the schema: the last part, qualified with the schema. -/
def qualify (s : Schema) (name : Name) : Name :=
  s.name ++ name.unqualified

/-- A further table. -/
def table (s : Schema) (t : TableInfo) : Schema :=
  { s with tables := s.tables ++ [{ t with name := s.qualify t.name }] }

/-- A further sequence. -/
def sequence (s : Schema) (q : SequenceInfo) : Schema :=
  { s with sequences := s.sequences ++ [{ q with name := s.qualify q.name }] }

end Schema

/-- What is known of the database. -/
structure Catalog where
  /-- The schemas, as they were registered. -/
  schemas : List Schema

namespace Catalog

/-- Nothing is known. -/
def empty : Catalog := ⟨[]⟩

/-- A further schema. -/
def schema (c : Catalog) (s : Schema) : Catalog :=
  ⟨c.schemas ++ [s]⟩

/-- The schemas where an object of this name is looked for: those that its qualifier names, and all
of them when it has none. -/
def candidates (c : Catalog) (name : Name) : List Schema :=
  c.schemas.filter fun s => !name.isQualified || s.name.sameUnqualified name.qualifier

/-- The first table of a name. -/
def table? (c : Catalog) (name : Name) : Option TableInfo :=
  ((c.candidates name).flatMap Schema.tables).find? fun t => t.name.sameUnqualified name

/-- The first sequence of a name. -/
def sequence? (c : Catalog) (name : Name) : Option SequenceInfo :=
  ((c.candidates name).flatMap Schema.sequences).find? fun q => q.name.sameUnqualified name

end Catalog

end Polysql

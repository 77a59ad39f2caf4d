import Polysql.Draft.Guard
import Polysql.Draft.Insert
/-!
Drafts of definitions of tables, indexes and sequences. They bind nothing: every value is written
out.
-/

namespace Polysql

namespace Scope

/-- The place where every value is written out. -/
def writtenOut (s : Scope) : Scope :=
  { s with inline := true }

end Scope

namespace Statement

/-- The check that a definition asks for. -/
def guard? : Statement → Option Guard
  | createTable c => if c.ifNotExists then some .createTable else none
  | createIndex c => if c.ifNotExists then some .createIndex else none
  | createSequence c => if c.ifNotExists then some .createSequence else none
  | dropTable d => if d.ifExists then some .dropTable else none
  | dropIndex d => if d.ifExists then some .dropIndex else none
  | dropSequence d => if d.ifExists then some .dropSequence else none
  | _ => none

/-- The check of a definition is a block around it. -/
def isGuarded (d : Dialect) (stmt : Statement) : Bool :=
  stmt.guard?.any fun g => !g.check.contains d

end Statement

namespace Draft

/-- The check of the creation of an object. -/
def ifNotExists (asked : Bool) : Draft :=
  onlyIf asked "IF NOT EXISTS "

/-- The check of the removal of an object. -/
def ifExists (asked : Bool) : Draft :=
  onlyIf asked "IF EXISTS "

/-- An integer. -/
def integer (n : Int64) : Draft :=
  text (Int.repr n.toInt)

end Draft

namespace Writers

/-! ### Tables -/

/-- A column of a new table. -/
def columnDefinition (w : Writers) (s : Scope) (c : ColumnDefinition) : Draft :=
  Draft.unqualified c.name ++ " " ++ Draft.ofText (s.dialect.typeName false c.type) ++
    Draft.ofOption (fun e => " DEFAULT " ++ w.expr s e) c.default? ++
    Draft.onlyIf c.notNull " NOT NULL"

/-- The primary key of a new table, if it has one. -/
def primaryKey (columns : List Name) : List Draft :=
  if columns.isEmpty then []
  else ["PRIMARY KEY (" ++ Draft.unqualifiedNames columns ++ ")"]

/-- `CREATE TABLE`. -/
def createTable (w : Writers) (s : Scope) (c : CreateTable) : Draft :=
  Guard.createTable.draft s c.ifNotExists fun s asked =>
    "CREATE TABLE " ++ Draft.ifNotExists asked ++ Draft.qualified c.name ++ " (" ++
      Draft.commas (c.columns.map (w.columnDefinition s.writtenOut) ++ primaryKey c.primaryKey) ++
      ")"

/-- `DROP TABLE` with the words that drop what depends on the table. -/
def dropTableBy (s : Scope) (d : DropTable) (words : String) : Draft :=
  Guard.dropTable.draft s d.ifExists fun _ asked =>
    "DROP TABLE " ++ Draft.ifExists asked ++ Draft.qualified d.name ++ words

/-- `DROP TABLE`. -/
def dropTable (s : Scope) (d : DropTable) : Draft :=
  if !d.cascade then dropTableBy s d ""
  else if s.family = .oracle then dropTableBy s d " CASCADE CONSTRAINTS"
  else if s.has Feature.dropTableCascade then dropTableBy s d " CASCADE"
  else s.refuse "DROP TABLE .. CASCADE"

/-- What becomes of the identities of a truncated table. -/
def identityWords : IdentityOption → String
  | .restart => " RESTART IDENTITY"
  | .continue_ => " CONTINUE IDENTITY"

/-- `TRUNCATE`. -/
def truncateTable (s : Scope) (t : Truncate) : Draft :=
  "TRUNCATE TABLE " ++ Draft.qualified t.table ++
    Draft.onlyIf (s.family == .db2) " IMMEDIATE" ++
    Draft.ofOption (fun i =>
      if s.has Feature.truncateIdentity then identityWords i
      else s.refuse "TRUNCATE .. RESTART IDENTITY") t.identity? ++
    Draft.onlyIf t.cascade
      (if s.has Feature.truncateCascade then " CASCADE" else s.refuse "TRUNCATE .. CASCADE")

/-- The removal of all rows of a table. -/
def truncate (s : Scope) (t : Truncate) : Draft :=
  if !s.has Feature.withoutTruncate then truncateTable s t
  else if t.identity?.isSome || t.cascade then s.refuse "TRUNCATE options"
  else "DELETE FROM " ++ Draft.qualified t.table

/-! ### Indexes -/

/-- `CREATE INDEX` on an engine that can index the rows it asks for. -/
def createIndexOn (w : Writers) (s : Scope) (c : CreateIndex) : Draft :=
  Guard.createIndex.draft s c.ifNotExists fun s asked =>
    "CREATE " ++ Draft.onlyIf c.unique "UNIQUE " ++ "INDEX " ++ Draft.ifNotExists asked ++
      Draft.unqualified c.name ++ " ON " ++ Draft.qualified c.table ++ " (" ++
      Draft.commas (c.columns.map fun (n, d?) => Draft.unqualified n ++ Draft.direction d?) ++
      ")" ++
      Draft.ofOption (fun f => " WHERE " ++ w.condition s.writtenOut.unqualified f) c.filter?

/-- `CREATE INDEX`. -/
def createIndex (w : Writers) (s : Scope) (c : CreateIndex) : Draft :=
  if c.filter?.isSome && !s.has Feature.partialIndex then s.refuse "partial indexes"
  else w.createIndexOn s c

/-- `DROP INDEX`, with the table where the engine asks for it. -/
def dropIndexOn (s : Scope) (d : DropIndex) (table? : Option Name) : Draft :=
  Guard.dropIndex.draft s d.ifExists fun _ asked =>
    "DROP INDEX " ++ Draft.ifExists asked ++ Draft.qualified d.name ++
      Draft.ofOption (fun t => " ON " ++ Draft.qualified t) table?

/-- `DROP INDEX`. -/
def dropIndex (s : Scope) (d : DropIndex) : Draft :=
  if !s.has Feature.dropIndexOn then
    dropIndexOn s d none
  else if d.table?.isNone then
    .fail (.invalidStatement
      ("DROP INDEX on " ++ s.dialect.name ++ " needs the indexed table"))
  else
    dropIndexOn s d d.table?

/-! ### Sequences -/

/-- A number of a sequence, if it is given. -/
def sequenceNumber (words : String) (n? : Option Int64) : Draft :=
  .ofOption (fun n => words ++ Draft.integer n) n?

/-- `CREATE SEQUENCE`. -/
def createSequence (s : Scope) (c : CreateSequence) : Draft :=
  if !s.has Feature.sequences then
    s.refuse "sequences"
  else
    Guard.createSequence.draft s c.ifNotExists fun _ asked =>
      "CREATE SEQUENCE " ++ Draft.ifNotExists asked ++ Draft.qualified c.name ++
        sequenceNumber " START WITH " c.start? ++
        sequenceNumber " INCREMENT BY " c.increment? ++
        sequenceNumber " MINVALUE " c.least? ++
        sequenceNumber " MAXVALUE " c.greatest? ++
        Draft.onlyIf c.cycle " CYCLE" ++
        Draft.ofOption (fun n => " CACHE " ++ Draft.number n.toNat) c.cache?

/-- `DROP SEQUENCE`. -/
def dropSequence (s : Scope) (d : DropSequence) : Draft :=
  if !s.has Feature.sequences then
    s.refuse "sequences"
  else
    Guard.dropSequence.draft s d.ifExists fun _ asked =>
      "DROP SEQUENCE " ++ Draft.ifExists asked ++ Draft.qualified d.name ++
        Draft.onlyIf (s.family == .derby) " RESTRICT"

end Writers

end Polysql

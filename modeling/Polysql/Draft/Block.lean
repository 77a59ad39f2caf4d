import Polysql.Draft.Change
import Polysql.Draft.Definition
/-!
Drafts of blocks. The outermost block is written in the procedural language of the engine; a block
inside of it is a plain `BEGIN` and `END`. All values in a block are written out, and statements
that do nothing are left out.
-/

namespace Polysql

namespace Scope

/-- The place of the statements of a block. -/
def insideBlock (s : Scope) : Scope :=
  { s with inBlock := true }

end Scope

namespace Writers

/-- A definition that is run as dynamic SQL. -/
def dynamic (w : Writers) (s : Scope) (stmt : Statement) : Draft :=
  (if s.family = .firebird then "EXECUTE STATEMENT '" else "EXECUTE IMMEDIATE '") ++
    Draft.embed .quoted (w.statement s.inText stmt) ++ "'"

/-- A statement of a block. -/
def member (w : Writers) (s : Scope) (stmt : Statement) : Draft :=
  if stmt.isDefinition && s.has Feature.dynamicDdl && !stmt.isGuarded s.dialect then
    w.dynamic s stmt
  else
    w.statement s stmt

/-- The statements of a block, each with its end. -/
def members (w : Writers) (s : Scope) (b : Block) : Draft :=
  .concat ((b.statements.filter Statement.isExecutable).map fun stmt =>
    w.member s.insideBlock stmt ++ Draft.ofPiece .terminator)

/-- The block as a procedure that is created, called and dropped. -/
def procedure (w : Writers) (s : Scope) (b : Block) : Draft :=
  let name := Draft.qualified (Name.ofText b.name)
  "CREATE PROCEDURE " ++ name ++ "() BEGIN " ++ w.members s b ++ "END; CALL " ++ name ++
    "(); DROP PROCEDURE " ++ name ++ ";"

/-- A block in the procedural language of the engine. -/
def outerBlock (w : Writers) (s : Scope) (b : Block) : Draft :=
  match s.family with
  | .postgres | .yugabyteDb =>
    Draft.embed .dollars (" BEGIN " ++ w.members s.inText b ++ "END ")
  | .oracle => "BEGIN " ++ w.members s b ++ "END;"
  | .db2 | .sqlServer => "BEGIN " ++ w.members s b ++ "END"
  | .firebird => "EXECUTE BLOCK AS BEGIN " ++ w.members s b ++ "END"
  | .mariaDb => "BEGIN NOT ATOMIC " ++ w.members s b ++ "END"
  | .mySql => w.procedure s b
  | _ => s.refuse "procedural blocks"

/-- A block. -/
def block (w : Writers) (s : Scope) (b : Block) : Draft :=
  if s.inBlock then "BEGIN " ++ w.members s.writtenOut b ++ "END"
  else w.outerBlock s.writtenOut b

/-- A statement, by means of writers for its parts. -/
def draftStatement (w : Writers) (s : Scope) : Statement → Draft
  | .select q => w.select s q
  | .insert i => w.insert s i
  | .update u => w.update s u
  | .delete d => w.delete s d
  | .createIndex c => w.createIndex s c
  | .dropIndex d => dropIndex s d
  | .truncate t => truncate s t
  | .createSequence c => createSequence s c
  | .dropSequence d => dropSequence s d
  | .createTable c => w.createTable s c
  | .dropTable d => dropTable s d
  | .block b => w.block s b

end Writers

end Polysql

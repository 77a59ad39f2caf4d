import Polysql.Draft.Scope
/-!
Guards: a definition whose existence check the engine lacks is run as dynamic SQL in a block that
passes over the one error the check would have avoided.
-/

namespace Polysql

/-- The definitions that can ask whether their object exists. -/
inductive Guard where
  | createTable
  | createIndex
  | createSequence
  | dropTable
  | dropIndex
  | dropSequence
deriving DecidableEq, Repr

namespace Guard

/-- The guard is for the creation of an object. -/
def isCreate : Guard → Bool
  | createTable | createIndex | createSequence => true
  | dropTable | dropIndex | dropSequence => false

/-- The words of the check. -/
def words (g : Guard) : String :=
  if g.isCreate then "IF NOT EXISTS" else "IF EXISTS"

/-- The engines that have the check. -/
def check : Guard → DialectSet
  | createTable => Feature.createTableIfNotExists
  | createIndex => Feature.createIndexIfNotExists
  | createSequence => Feature.createSequenceIfNotExists
  | dropTable => Feature.dropTableIfExists
  | dropIndex => Feature.dropIndexIfExists
  | dropSequence => Feature.dropSequenceIfExists

/-- The error that Oracle raises. -/
def oracleCode : Guard → String
  | createTable | createIndex | createSequence => "-955"
  | dropTable => "-942"
  | dropIndex => "-1418"
  | dropSequence => "-2289"

/-- The error that SQL Server raises. -/
def sqlServerCode : Guard → String
  | createTable | createSequence => "2714"
  | createIndex => "1913"
  | dropTable | dropIndex | dropSequence => "3701"

/-- The state in which Db2 fails. -/
def db2State (g : Guard) : String :=
  if g.isCreate then "42710" else "42704"

/-- The condition that Postgres raises. -/
def postgresCondition : Guard → String
  | createTable | createIndex | createSequence => "duplicate_table"
  | dropIndex | dropSequence => "undefined_object"
  | dropTable => "undefined_table"

/-- A block on Postgres. It stands between dollar tags, unless it is inside of a block already. -/
def postgresBlock (s : Scope) (g : Guard) (body : Draft) : Draft :=
  let block := "BEGIN EXECUTE '" ++ Draft.embed .quoted body ++ "'; EXCEPTION WHEN " ++
    g.postgresCondition ++ " THEN NULL; END"
  if s.inBlock then block else .embed .dollars (" " ++ block ++ " ")

/-- The block around a definition that passes over the error. -/
def block (s : Scope) (g : Guard) (definition : Scope → Draft) : Draft :=
  let body := definition s.inText
  let literal := "'" ++ Draft.embed .quoted body ++ "'"
  match s.family with
  | .oracle =>
    "BEGIN EXECUTE IMMEDIATE " ++ literal ++ "; EXCEPTION WHEN OTHERS THEN IF SQLCODE != " ++
      g.oracleCode ++ " THEN RAISE; END IF; END;"
  | .sqlServer =>
    "BEGIN TRY " ++ body ++ " END TRY BEGIN CATCH IF ERROR_NUMBER() != " ++ g.sqlServerCode ++
      " THROW; END CATCH"
  | .db2 =>
    "BEGIN DECLARE CONTINUE HANDLER FOR SQLSTATE '" ++ g.db2State ++
      "' BEGIN END; EXECUTE IMMEDIATE " ++ literal ++ "; END"
  | .firebird =>
    (if s.inBlock then "BEGIN" else "EXECUTE BLOCK AS BEGIN") ++ " EXECUTE STATEMENT " ++
      literal ++ "; WHEN SQLCODE -607 DO BEGIN END END"
  | .postgres | .yugabyteDb | .redshift => postgresBlock s g body
  | _ => s.refuse g.words

/-- A definition that may ask whether its object exists. The check is a clause of the definition, or
a block around the definition without it. -/
def draft (g : Guard) (s : Scope) (asked : Bool) (definition : Scope → Bool → Draft) : Draft :=
  if asked && !s.has g.check then g.block s fun s => definition s false
  else definition s asked

end Guard

end Polysql

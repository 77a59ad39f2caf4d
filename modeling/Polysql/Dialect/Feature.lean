import Polysql.Dialect.Set
/-!
What each engine can write. A feature is the set of the dialects that have it; the statement
writers look it up and otherwise take a detour or refuse.
-/

namespace Polysql.Feature

open DialectSet

/-- Engines that take over the literals, functions and placeholders of Postgres. -/
def postgresLike : DialectSet :=
  since [.postgres, .redshift, .yugabyteDb]

/-! ### Literals and truth values -/

/-- Truth values are written `1` and `0`. -/
def numericBooleans : DialectSet :=
  until_ [.oracle21c, .firebird2_5, .db2_10] ∪ since [.sqlServer, .sybase, .cubrid]

/-- A condition can stand where a value is expected, and a truth value where a condition is. -/
def booleanValues : DialectSet :=
  postgresLike ∪ since [.mySql, .mariaDb, .h2, .hsqldb, .sqlite, .duckDb, .snowflake, .trino,
    .bigQuery, .clickHouse, .ignite, .firebird3_0, .oracle23ai, .db2_11]

/-- A value can be cast to a truth value. -/
def booleanCasts : DialectSet :=
  postgresLike ∪ since [.h2, .hsqldb, .duckDb, .snowflake, .trino, .bigQuery, .ignite,
    .firebird3_0, .oracle23ai, .db2_11]

/-- A backslash in a string literal takes the next character literally. -/
def backslashEscapes : DialectSet :=
  since [.mySql, .mariaDb]

/-- A NULL literal carries its type. -/
def typedNulls : DialectSet :=
  since [.derby, .db2, .hsqldb]

/-- Array literals. -/
def arrayLiterals : DialectSet :=
  postgresLike ∪ since [.h2, .hsqldb, .duckDb, .trino]

/-! ### Functions -/

/-- `LEAST` and `GREATEST`. -/
def leastGreatest : DialectSet :=
  postgresLike ∪ since [.mySql, .mariaDb, .oracle, .h2, .hsqldb, .db2, .duckDb, .snowflake,
    .trino, .bigQuery, .clickHouse, .sqlServer2022]

/-- `SINH`, `COSH` and `TANH`. -/
def hyperbolic : DialectSet :=
  since [.oracle, .db2, .h2, .postgres12, .duckDb, .hana]

/-- There is no `POWER`. -/
def withoutPower : DialectSet :=
  until_ [.sqlite3_33] ∪ since [.derby]

/-- `LOG` takes the base first. -/
def logWithBase : DialectSet :=
  postgresLike ∪ since [.oracle, .h2, .mySql, .mariaDb, .snowflake]

/-- `FILTER` after an aggregate. -/
def aggregateFilter : DialectSet :=
  since [.postgres9_4, .yugabyteDb, .sqlite3_30, .h2, .hsqldb, .duckDb]

/-- `NVL2`. -/
def nvl2 : DialectSet :=
  since [.oracle, .db2, .h2, .snowflake, .hana]

/-- There is no `TRIM`, only trimming of one side. -/
def withoutTrim : DialectSet :=
  until_ [.sqlServer2016]

/-! ### Conditions -/

/-- `ILIKE`. -/
def ilike : DialectSet :=
  postgresLike ∪ since [.duckDb, .h2, .snowflake, .clickHouse]

/-- `BETWEEN SYMMETRIC`. -/
def betweenSymmetric : DialectSet :=
  since [.postgres, .yugabyteDb]

/-- `IS DISTINCT FROM`. -/
def isDistinctFrom : DialectSet :=
  postgresLike ∪ since [.h2, .hsqldb, .firebird, .db2_11, .duckDb, .snowflake, .trino,
    .sqlServer2022]

/-- Rows can be compared. -/
def rowComparison : DialectSet :=
  postgresLike ∪ since [.mySql, .mariaDb, .h2, .hsqldb, .sqlite, .duckDb, .db2]

/-- A row can be looked up in a list or a subquery. -/
def rowIn : DialectSet :=
  rowComparison ∪ since [.oracle]

/-- `IS NULL` on a row. -/
def rowIsNull : DialectSet :=
  since [.postgres, .yugabyteDb, .h2, .hsqldb]

/-- `BETWEEN` on rows. -/
def rowBetween : DialectSet :=
  since [.postgres, .yugabyteDb, .mySql, .mariaDb, .h2, .hsqldb]

/-- `XOR` between conditions. -/
def xor : DialectSet :=
  since [.mySql, .mariaDb]

/-! ### Tables and joins -/

/-- Natural joins. -/
def naturalJoin : DialectSet :=
  postgresLike ∪ since [.mySql, .mariaDb, .oracle, .h2, .hsqldb, .sqlite, .derby, .firebird3_0,
    .duckDb, .snowflake, .trino]

/-- `USING` in a join. -/
def joinUsing : DialectSet :=
  postgresLike ∪ since [.mySql, .mariaDb, .oracle, .h2, .hsqldb, .sqlite, .derby, .firebird3_0,
    .duckDb, .snowflake, .trino, .clickHouse, .bigQuery]

/-- There is no full join. -/
def withoutFullJoin : DialectSet :=
  since [.mySql, .mariaDb]

/-- There is neither a right nor a full join. -/
def withoutRightJoin : DialectSet :=
  until_ [.sqlite3_38]

/-- `LATERAL` tables. -/
def lateral : DialectSet :=
  since [.postgres9_3, .yugabyteDb, .mySql8_0_19, .oracle12c, .db2, .snowflake, .duckDb,
    .firebird4_0]

/-- `CROSS APPLY` and `OUTER APPLY`. -/
def apply : DialectSet :=
  since [.sqlServer, .oracle12c]

/-- An apply is written as a lateral join. -/
def applyAsLateral : DialectSet :=
  since [.postgres9_3, .yugabyteDb, .firebird4_0]

/-- Semi and anti joins. -/
def semiJoin : DialectSet :=
  since [.duckDb, .clickHouse]

/-- `STRAIGHT_JOIN`. -/
def straightJoin : DialectSet :=
  since [.mySql, .mariaDb]

/-- The alias of a derived table can name its columns. -/
def aliasColumns : DialectSet :=
  postgresLike ∪ since [.h2, .hsqldb, .db2, .derby, .sqlServer, .firebird3_0, .duckDb,
    .snowflake, .trino, .mySql8_0_19, .oracle23ai]

/-- `VALUES` as a table. -/
def valuesTable : DialectSet :=
  postgresLike ∪ since [.h2, .hsqldb, .db2, .derby, .sqlServer, .duckDb, .snowflake, .trino,
    .oracle23ai]

/-- `VALUES` as a table, each row marked by `ROW`. -/
def valuesOfRows : DialectSet :=
  since [.mySql8_0_19]

/-- `UNNEST`. -/
def unnest : DialectSet :=
  postgresLike ∪ since [.h2, .hsqldb, .duckDb, .trino]

/-- `ROWS FROM`. -/
def rowsFrom : DialectSet :=
  postgresLike

/-- The alias of a table follows without `AS`. -/
def bareTableAlias : DialectSet :=
  since [.oracle]

/-! ### Queries -/

/-- `NULLS FIRST` and `NULLS LAST`. -/
def nullsOrdering : DialectSet :=
  postgresLike ∪ since [.oracle, .h2, .hsqldb, .db2_11, .sqlite3_30, .firebird, .derby, .duckDb,
    .snowflake, .trino]

/-- A recursive `WITH` is marked as such. -/
def recursiveKeyword : DialectSet :=
  postgresLike ∪ since [.mySql8_0, .mariaDb, .sqlite, .h2, .hsqldb, .firebird, .duckDb,
    .snowflake, .trino]

/-- `DISTINCT ON`. -/
def distinctOn : DialectSet :=
  postgresLike ∪ since [.duckDb]

/-- There is neither `INTERSECT` nor `EXCEPT`. -/
def withoutIntersect : DialectSet :=
  until_ [.mySql8_0_19]

/-- `INTERSECT ALL` and `EXCEPT ALL`. -/
def intersectAll : DialectSet :=
  postgresLike ∪ since [.db2, .hsqldb, .duckDb, .oracle21c, .mariaDb10_5, .mySql, .trino]

/-- There is no `FOR UPDATE`. -/
def withoutForUpdate : DialectSet :=
  since [.sqlite, .sqlServer, .sybase, .clickHouse, .bigQuery]

/-! ### Changing rows -/

/-- An insert takes one row of values only. -/
def singleRowInsert : DialectSet :=
  until_ [.oracle21c] ∪ since [.firebird]

/-- `INSERT .. DEFAULT VALUES`. -/
def defaultValues : DialectSet :=
  postgresLike ∪ since [.sqlite, .sqlServer, .h2, .hsqldb, .firebird, .duckDb]

/-- `ON CONFLICT DO NOTHING`. -/
def onConflict : DialectSet :=
  since [.postgres9_5, .yugabyteDb, .sqlite, .duckDb]

/-- `INSERT IGNORE`. -/
def insertIgnore : DialectSet :=
  since [.mySql, .mariaDb]

/-- Returned values are named in an `OUTPUT` clause. -/
def outputClause : DialectSet :=
  since [.sqlServer]

/-- `INSERT .. RETURNING`. -/
def insertReturning : DialectSet :=
  since [.postgres, .yugabyteDb, .sqlite3_35, .mariaDb10_5, .firebird, .duckDb]

/-- `UPDATE .. RETURNING`. -/
def updateReturning : DialectSet :=
  since [.postgres, .yugabyteDb, .sqlite3_35, .firebird, .duckDb]

/-- `DELETE .. RETURNING`. -/
def deleteReturning : DialectSet :=
  since [.postgres, .yugabyteDb, .sqlite3_35, .mariaDb, .firebird, .duckDb]

/-- An update can assign a row. -/
def rowAssignment : DialectSet :=
  since [.postgres, .yugabyteDb, .db2, .h2, .hsqldb]

/-- `UPDATE .. FROM`. -/
def updateFrom : DialectSet :=
  postgresLike ∪ since [.sqlServer, .sqlite3_33, .snowflake, .duckDb]

/-- `DELETE .. USING`. -/
def deleteUsing : DialectSet :=
  postgresLike ∪ since [.mySql, .mariaDb, .duckDb]

/-- An update or a delete can be ordered and limited. -/
def limitedChanges : DialectSet :=
  since [.mySql, .mariaDb]

/-! ### Definitions -/

/-- Indexes over part of a table. -/
def partialIndex : DialectSet :=
  postgresLike ∪ since [.sqlite, .sqlServer, .duckDb]

/-- Dropping an index names its table. -/
def dropIndexOn : DialectSet :=
  since [.mySql, .mariaDb, .sqlServer]

/-- There is no `TRUNCATE`. -/
def withoutTruncate : DialectSet :=
  since [.sqlite, .firebird]

/-- `TRUNCATE` restarts or continues identities. -/
def truncateIdentity : DialectSet :=
  since [.postgres, .yugabyteDb, .h2, .hsqldb, .duckDb]

/-- `TRUNCATE .. CASCADE`. -/
def truncateCascade : DialectSet :=
  since [.postgres, .yugabyteDb, .oracle12c, .duckDb]

/-- Sequences. -/
def sequences : DialectSet :=
  postgresLike ∪ since [.oracle, .sqlServer, .h2, .hsqldb, .derby, .db2, .firebird, .mariaDb10_3,
    .snowflake, .duckDb, .hana, .ignite, .cubrid]

/-- `CREATE TABLE IF NOT EXISTS`. -/
def createTableIfNotExists : DialectSet :=
  postgresLike ∪ since [.mySql, .mariaDb, .sqlite, .h2, .hsqldb, .duckDb, .snowflake,
    .clickHouse, .trino, .bigQuery, .oracle23ai]

/-- `CREATE INDEX IF NOT EXISTS`. -/
def createIndexIfNotExists : DialectSet :=
  since [.postgres9_5, .yugabyteDb, .sqlite, .h2, .mariaDb, .duckDb, .oracle23ai]

/-- `CREATE SEQUENCE IF NOT EXISTS`. -/
def createSequenceIfNotExists : DialectSet :=
  since [.postgres9_5, .yugabyteDb, .h2, .mariaDb10_3, .duckDb, .snowflake, .oracle23ai]

/-- `DROP TABLE IF EXISTS`. -/
def dropTableIfExists : DialectSet :=
  postgresLike ∪ since [.mySql, .mariaDb, .sqlite, .h2, .hsqldb, .sqlServer2016, .duckDb,
    .snowflake, .clickHouse, .trino, .bigQuery, .oracle23ai]

/-- `DROP INDEX IF EXISTS`. -/
def dropIndexIfExists : DialectSet :=
  since [.postgres, .yugabyteDb, .mariaDb, .sqlite, .h2, .hsqldb, .sqlServer2016, .duckDb,
    .oracle23ai]

/-- `DROP SEQUENCE IF EXISTS`. -/
def dropSequenceIfExists : DialectSet :=
  since [.postgres, .yugabyteDb, .h2, .hsqldb, .mariaDb10_3, .sqlServer2016, .duckDb, .snowflake,
    .oracle23ai]

/-- `DROP TABLE .. CASCADE`. -/
def dropTableCascade : DialectSet :=
  postgresLike ∪ since [.oracle, .h2, .hsqldb, .duckDb]

/-- A block runs definitions only as dynamic SQL. -/
def dynamicDdl : DialectSet :=
  since [.oracle, .db2, .firebird]

/-! ### Limits -/

/-- The longest list of an `IN` that Oracle takes. -/
def inListLimit : Nat := 1000

end Polysql.Feature

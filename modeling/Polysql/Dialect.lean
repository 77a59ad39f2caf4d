import Polysql.Text.Ascii
/-!
The SQL engines and versions that statements are written for. Versions of one engine form a family;
they are listed oldest first, and the dialect without a version closes its family and stands for
the newest release.
-/

namespace Polysql

/-- A family of engine versions with common rules. -/
inductive Family where
  | standard | bigQuery | clickHouse | cubrid | db2 | derby | duckDb | firebird | h2 | hana
  | hsqldb | ignite | mariaDb | mySql | oracle | postgres | redshift | snowflake | sqlite
  | sqlServer | sybase | trino | yugabyteDb
deriving DecidableEq, Repr

/-- A SQL engine and version. -/
inductive Dialect where
  | standard | bigQuery | clickHouse | cubrid | db2_9 | db2_10 | db2_11 | db2 | derby | duckDb
  | firebird2_5 | firebird3_0 | firebird4_0 | firebird | h2_1_4_200 | h2_2_0_202 | h2 | hana
  | hsqldb | ignite | mariaDb10_3 | mariaDb10_5 | mariaDb | mySql5_7 | mySql8_0 | mySql8_0_19
  | mySql | oracle11g | oracle12c | oracle18c | oracle21c | oracle23ai | oracle | postgres9_3
  | postgres9_4 | postgres9_5 | postgres10 | postgres11 | postgres12 | postgres14 | postgres15
  | postgres16 | postgres | redshift | snowflake | sqlite3_25 | sqlite3_28 | sqlite3_30
  | sqlite3_33 | sqlite3_35 | sqlite3_38 | sqlite | sqlServer2012 | sqlServer2014 | sqlServer2016
  | sqlServer2017 | sqlServer2019 | sqlServer2022 | sqlServer | sybase | trino | yugabyteDb
deriving DecidableEq, Repr

namespace Family

/-- The families in their order. -/
def all : List Family :=
  [
    .standard, .bigQuery, .clickHouse, .cubrid, .db2, .derby, .duckDb, .firebird, .h2, .hana,
    .hsqldb, .ignite, .mariaDb, .mySql, .oracle, .postgres, .redshift, .snowflake, .sqlite,
    .sqlServer, .sybase, .trino, .yugabyteDb]

/-- The name of a family. -/
def name : Family → String
  | .standard => "DEFAULT"
  | .bigQuery => "BIGQUERY"
  | .clickHouse => "CLICKHOUSE"
  | .cubrid => "CUBRID"
  | .db2 => "DB2"
  | .derby => "DERBY"
  | .duckDb => "DUCKDB"
  | .firebird => "FIREBIRD"
  | .h2 => "H2"
  | .hana => "HANA"
  | .hsqldb => "HSQLDB"
  | .ignite => "IGNITE"
  | .mariaDb => "MARIADB"
  | .mySql => "MYSQL"
  | .oracle => "ORACLE"
  | .postgres => "POSTGRES"
  | .redshift => "REDSHIFT"
  | .snowflake => "SNOWFLAKE"
  | .sqlite => "SQLITE"
  | .sqlServer => "SQLSERVER"
  | .sybase => "SYBASE"
  | .trino => "TRINO"
  | .yugabyteDb => "YUGABYTEDB"

/-- The dialect of a family that has no version: its newest release. -/
def latest : Family → Dialect
  | .standard => .standard
  | .bigQuery => .bigQuery
  | .clickHouse => .clickHouse
  | .cubrid => .cubrid
  | .db2 => .db2
  | .derby => .derby
  | .duckDb => .duckDb
  | .firebird => .firebird
  | .h2 => .h2
  | .hana => .hana
  | .hsqldb => .hsqldb
  | .ignite => .ignite
  | .mariaDb => .mariaDb
  | .mySql => .mySql
  | .oracle => .oracle
  | .postgres => .postgres
  | .redshift => .redshift
  | .snowflake => .snowflake
  | .sqlite => .sqlite
  | .sqlServer => .sqlServer
  | .sybase => .sybase
  | .trino => .trino
  | .yugabyteDb => .yugabyteDb

/-- The place of a family in the list of all. -/
def index (f : Family) : Nat :=
  f.ctorIdx

end Family

namespace Dialect

/-- The dialects, family by family, the oldest version first. -/
def all : List Dialect :=
  [
    .standard, .bigQuery, .clickHouse, .cubrid, .db2_9, .db2_10, .db2_11, .db2, .derby, .duckDb,
    .firebird2_5, .firebird3_0, .firebird4_0, .firebird, .h2_1_4_200, .h2_2_0_202, .h2, .hana,
    .hsqldb, .ignite, .mariaDb10_3, .mariaDb10_5, .mariaDb, .mySql5_7, .mySql8_0, .mySql8_0_19,
    .mySql, .oracle11g, .oracle12c, .oracle18c, .oracle21c, .oracle23ai, .oracle, .postgres9_3,
    .postgres9_4, .postgres9_5, .postgres10, .postgres11, .postgres12, .postgres14, .postgres15,
    .postgres16, .postgres, .redshift, .snowflake, .sqlite3_25, .sqlite3_28, .sqlite3_30,
    .sqlite3_33, .sqlite3_35, .sqlite3_38, .sqlite, .sqlServer2012, .sqlServer2014,
    .sqlServer2016, .sqlServer2017, .sqlServer2019, .sqlServer2022, .sqlServer, .sybase, .trino,
    .yugabyteDb]

/-- The family of a dialect. -/
def family : Dialect → Family
  | .standard => .standard
  | .bigQuery => .bigQuery
  | .clickHouse => .clickHouse
  | .cubrid => .cubrid
  | .db2_9 | .db2_10 | .db2_11 | .db2 => .db2
  | .derby => .derby
  | .duckDb => .duckDb
  | .firebird2_5 | .firebird3_0 | .firebird4_0 | .firebird => .firebird
  | .h2_1_4_200 | .h2_2_0_202 | .h2 => .h2
  | .hana => .hana
  | .hsqldb => .hsqldb
  | .ignite => .ignite
  | .mariaDb10_3 | .mariaDb10_5 | .mariaDb => .mariaDb
  | .mySql5_7 | .mySql8_0 | .mySql8_0_19 | .mySql => .mySql
  | .oracle11g | .oracle12c | .oracle18c | .oracle21c | .oracle23ai | .oracle => .oracle
  | .postgres9_3 | .postgres9_4 | .postgres9_5 | .postgres10 | .postgres11 | .postgres12
  | .postgres14 | .postgres15 | .postgres16 | .postgres => .postgres
  | .redshift => .redshift
  | .snowflake => .snowflake
  | .sqlite3_25 | .sqlite3_28 | .sqlite3_30 | .sqlite3_33 | .sqlite3_35 | .sqlite3_38 | .sqlite
 => .sqlite
  | .sqlServer2012 | .sqlServer2014 | .sqlServer2016 | .sqlServer2017 | .sqlServer2019
  | .sqlServer2022 | .sqlServer => .sqlServer
  | .sybase => .sybase
  | .trino => .trino
  | .yugabyteDb => .yugabyteDb

/-- The name of a dialect in capitals. -/
def name : Dialect → String
  | .standard => "DEFAULT"
  | .bigQuery => "BIGQUERY"
  | .clickHouse => "CLICKHOUSE"
  | .cubrid => "CUBRID"
  | .db2_9 => "DB2_9"
  | .db2_10 => "DB2_10"
  | .db2_11 => "DB2_11"
  | .db2 => "DB2"
  | .derby => "DERBY"
  | .duckDb => "DUCKDB"
  | .firebird2_5 => "FIREBIRD_2_5"
  | .firebird3_0 => "FIREBIRD_3_0"
  | .firebird4_0 => "FIREBIRD_4_0"
  | .firebird => "FIREBIRD"
  | .h2_1_4_200 => "H2_1_4_200"
  | .h2_2_0_202 => "H2_2_0_202"
  | .h2 => "H2"
  | .hana => "HANA"
  | .hsqldb => "HSQLDB"
  | .ignite => "IGNITE"
  | .mariaDb10_3 => "MARIADB_10_3"
  | .mariaDb10_5 => "MARIADB_10_5"
  | .mariaDb => "MARIADB"
  | .mySql5_7 => "MYSQL_5_7"
  | .mySql8_0 => "MYSQL_8_0"
  | .mySql8_0_19 => "MYSQL_8_0_19"
  | .mySql => "MYSQL"
  | .oracle11g => "ORACLE_11G"
  | .oracle12c => "ORACLE_12C"
  | .oracle18c => "ORACLE_18C"
  | .oracle21c => "ORACLE_21C"
  | .oracle23ai => "ORACLE_23AI"
  | .oracle => "ORACLE"
  | .postgres9_3 => "POSTGRES_9_3"
  | .postgres9_4 => "POSTGRES_9_4"
  | .postgres9_5 => "POSTGRES_9_5"
  | .postgres10 => "POSTGRES_10"
  | .postgres11 => "POSTGRES_11"
  | .postgres12 => "POSTGRES_12"
  | .postgres14 => "POSTGRES_14"
  | .postgres15 => "POSTGRES_15"
  | .postgres16 => "POSTGRES_16"
  | .postgres => "POSTGRES"
  | .redshift => "REDSHIFT"
  | .snowflake => "SNOWFLAKE"
  | .sqlite3_25 => "SQLITE_3_25"
  | .sqlite3_28 => "SQLITE_3_28"
  | .sqlite3_30 => "SQLITE_3_30"
  | .sqlite3_33 => "SQLITE_3_33"
  | .sqlite3_35 => "SQLITE_3_35"
  | .sqlite3_38 => "SQLITE_3_38"
  | .sqlite => "SQLITE"
  | .sqlServer2012 => "SQLSERVER_2012"
  | .sqlServer2014 => "SQLSERVER_2014"
  | .sqlServer2016 => "SQLSERVER_2016"
  | .sqlServer2017 => "SQLSERVER_2017"
  | .sqlServer2019 => "SQLSERVER_2019"
  | .sqlServer2022 => "SQLSERVER_2022"
  | .sqlServer => "SQLSERVER"
  | .sybase => "SYBASE"
  | .trino => "TRINO"
  | .yugabyteDb => "YUGABYTEDB"

/-- The name of a dialect in mixed case, as a set of dialects is shown. -/
def tag : Dialect → String
  | .standard => "Default"
  | .bigQuery => "BigQuery"
  | .clickHouse => "ClickHouse"
  | .cubrid => "Cubrid"
  | .db2_9 => "Db2_9"
  | .db2_10 => "Db2_10"
  | .db2_11 => "Db2_11"
  | .db2 => "Db2"
  | .derby => "Derby"
  | .duckDb => "DuckDb"
  | .firebird2_5 => "Firebird2_5"
  | .firebird3_0 => "Firebird3_0"
  | .firebird4_0 => "Firebird4_0"
  | .firebird => "Firebird"
  | .h2_1_4_200 => "H2_1_4_200"
  | .h2_2_0_202 => "H2_2_0_202"
  | .h2 => "H2"
  | .hana => "Hana"
  | .hsqldb => "Hsqldb"
  | .ignite => "Ignite"
  | .mariaDb10_3 => "MariaDb10_3"
  | .mariaDb10_5 => "MariaDb10_5"
  | .mariaDb => "MariaDb"
  | .mySql5_7 => "MySql5_7"
  | .mySql8_0 => "MySql8_0"
  | .mySql8_0_19 => "MySql8_0_19"
  | .mySql => "MySql"
  | .oracle11g => "Oracle11g"
  | .oracle12c => "Oracle12c"
  | .oracle18c => "Oracle18c"
  | .oracle21c => "Oracle21c"
  | .oracle23ai => "Oracle23ai"
  | .oracle => "Oracle"
  | .postgres9_3 => "Postgres9_3"
  | .postgres9_4 => "Postgres9_4"
  | .postgres9_5 => "Postgres9_5"
  | .postgres10 => "Postgres10"
  | .postgres11 => "Postgres11"
  | .postgres12 => "Postgres12"
  | .postgres14 => "Postgres14"
  | .postgres15 => "Postgres15"
  | .postgres16 => "Postgres16"
  | .postgres => "Postgres"
  | .redshift => "Redshift"
  | .snowflake => "Snowflake"
  | .sqlite3_25 => "Sqlite3_25"
  | .sqlite3_28 => "Sqlite3_28"
  | .sqlite3_30 => "Sqlite3_30"
  | .sqlite3_33 => "Sqlite3_33"
  | .sqlite3_35 => "Sqlite3_35"
  | .sqlite3_38 => "Sqlite3_38"
  | .sqlite => "Sqlite"
  | .sqlServer2012 => "SqlServer2012"
  | .sqlServer2014 => "SqlServer2014"
  | .sqlServer2016 => "SqlServer2016"
  | .sqlServer2017 => "SqlServer2017"
  | .sqlServer2019 => "SqlServer2019"
  | .sqlServer2022 => "SqlServer2022"
  | .sqlServer => "SqlServer"
  | .sybase => "Sybase"
  | .trino => "Trino"
  | .yugabyteDb => "YugabyteDb"

/-- The place of a dialect in the list of all. -/
def index (d : Dialect) : Nat :=
  d.ctorIdx

/-- The dialect without a version, which stands for its family. -/
def isFamily (d : Dialect) : Bool :=
  d == d.family.latest

/-- `d` is `e` or a later version of the same family. -/
def supports (d e : Dialect) : Bool :=
  d.family == e.family && e.index ≤ d.index

/-- `d` comes before `e` in the list of all. -/
def precedes (d e : Dialect) : Bool :=
  d.index < e.index

/-- The dialect of a name, in capitals or not. -/
def ofName? (name : String) : Option Dialect :=
  all.find? fun d => Text.sameIgnoringCase d.name name

/-- The dialect of a name, and the one without an engine for a name that is not known. -/
def ofNameOrStandard (name : String) : Dialect :=
  (ofName? name).getD .standard

/-- The dialect whose name is exactly the given one. -/
def ofExactName? (name : String) : Option Dialect :=
  all.find? fun d => d.name == name

theorem mem_all (d : Dialect) : d ∈ all := by
  cases d <;> decide

end Dialect

namespace Family

/-- The dialects of a family, the oldest version first. -/
def dialects (f : Family) : List Dialect :=
  Dialect.all.filter fun d => d.family == f

/-- The family of a name. -/
def ofExactName? (name : String) : Option Family :=
  all.find? fun f => f.name == name

theorem mem_all (f : Family) : f ∈ all := by
  cases f <;> decide

end Family

end Polysql

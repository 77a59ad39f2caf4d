import Polysql.DataType
import Polysql.Error
/-!
The names of data types on each engine. The target of a cast and the type of a column are not always
spelled alike.
-/

namespace Polysql

/-- A type with its length; when there is none, with the given one if the engine asks for it. -/
def sizedName (name : String) (length? : Option Nat) (fallback? : Option String) : String :=
  match length?.map Nat.repr, fallback? with
  | some length, _ => name ++ "(" ++ length ++ ")"
  | none, some length => name ++ "(" ++ length ++ ")"
  | none, none => name

/-- A decimal type with as much of its size as is given. -/
def decimalName (name : String) : Option Nat → Option Nat → String
  | some p, some s => name ++ "(" ++ Nat.repr p ++ ", " ++ Nat.repr s ++ ")"
  | some p, none => name ++ "(" ++ Nat.repr p ++ ")"
  | none, _ => name

namespace Dialect

/-- The family takes the type names of Postgres. -/
def hasPostgresTypes (d : Dialect) : Bool :=
  d.family == .postgres || d.family == .yugabyteDb || d.family == .redshift

/-- MySQL and its sibling. -/
def isMySqlLike (d : Dialect) : Bool :=
  d.family == .mySql || d.family == .mariaDb

/-- The name of the type of truth values. -/
def booleanName (d : Dialect) : String :=
  match d.family with
  | .oracle => if d.precedes .oracle23ai then "NUMBER(1)" else "BOOLEAN"
  | .sqlServer | .sybase => "BIT"
  | .firebird => if d = .firebird2_5 then "SMALLINT" else "BOOLEAN"
  | .db2 => if d.precedes .db2_11 then "SMALLINT" else "BOOLEAN"
  | .cubrid => "SMALLINT"
  | .bigQuery => "BOOL"
  | _ => "BOOLEAN"

/-- The name of an integer type, given its own name and its number of digits. -/
def integerName (d : Dialect) (cast : Bool) (name : String) (digits : Nat) : String :=
  if d.isMySqlLike && cast then "SIGNED"
  else match d.family with
    | .bigQuery => "INT64"
    | .oracle => "NUMBER(" ++ Nat.repr digits ++ ")"
    | _ => name

/-- The name of the smallest integers, which not every engine has. -/
def tinyIntName (d : Dialect) : String :=
  match d.family with
  | .derby | .db2 | .firebird | .postgres | .yugabyteDb | .redshift => "SMALLINT"
  | _ => "TINYINT"

/-- The name of the type of doubles and of the shorter floating point numbers. -/
def floatName (d : Dialect) (cast long : Bool) : String :=
  match d.family with
  | .bigQuery => "FLOAT64"
  | .sqlite => "REAL"
  | _ =>
    if d.isMySqlLike && cast then
      if d.supports .mySql8_0_19 || d.supports .mariaDb10_5 then "DOUBLE" else "DECIMAL(65, 30)"
    else if !long then "REAL"
    else match d.family with
      | .sqlServer | .sybase => "FLOAT"
      | .oracle | .firebird | .postgres | .yugabyteDb | .redshift => "DOUBLE PRECISION"
      | _ => "DOUBLE"

/-- The name of the type of texts of a fixed length. -/
def charName (d : Dialect) (cast : Bool) (length? : Option Nat) : String :=
  match d.family with
  | .sqlite => if cast then "TEXT" else sizedName "CHAR" length? none
  | .bigQuery => "STRING"
  | _ => sizedName "CHAR" length? none

/-- The name of the type of texts up to a length. -/
def varCharName (d : Dialect) (cast : Bool) (length? : Option Nat) : String :=
  match d.family with
  | .mySql | .mariaDb =>
    if cast then sizedName "CHAR" length? none
    else if length?.isSome then sizedName "VARCHAR" length? none
    else "TEXT"
  | .sqlite => if cast || length?.isNone then "TEXT" else sizedName "VARCHAR" length? none
  | .oracle => sizedName "VARCHAR2" length? (some "4000")
  | .sqlServer => sizedName "VARCHAR" length? (some "max")
  | .derby | .db2 => sizedName "VARCHAR" length? (some "32672")
  | .firebird => sizedName "VARCHAR" length? (some "4000")
  | .hsqldb => sizedName "VARCHAR" length? (some "32768")
  | .bigQuery => "STRING"
  | _ => sizedName "VARCHAR" length? none

/-- The name of the type of long texts. -/
def clobName (d : Dialect) (cast : Bool) : String :=
  match d.family with
  | .mySql | .mariaDb => if cast then "CHAR" else "LONGTEXT"
  | .sqlServer => "VARCHAR(max)"
  | .firebird => "BLOB SUB_TYPE TEXT"
  | .bigQuery => "STRING"
  | .sqlite | .duckDb | .postgres | .yugabyteDb | .redshift => "TEXT"
  | _ => "CLOB"

/-- The name that some engines have for byte strings of all kinds. -/
def anyBinaryName? (d : Dialect) : Option String :=
  match d.family with
  | .postgres | .yugabyteDb | .redshift => some "BYTEA"
  | .bigQuery => some "BYTES"
  | .sqlite => some "BLOB"
  | _ => none

/-- The name of the type of byte strings of a fixed length. -/
def binaryName (d : Dialect) (cast : Bool) (length? : Option Nat) : String :=
  if d.isMySqlLike && cast then sizedName "BINARY" length? none
  else match d.family with
    | .oracle => sizedName "RAW" length? (some "2000")
    | .derby => sizedName "CHAR" length? none ++ " FOR BIT DATA"
    | _ => sizedName "BINARY" length? none

/-- The name of the type of byte strings up to a length. -/
def varBinaryName (d : Dialect) (cast : Bool) (length? : Option Nat) : String :=
  if d.isMySqlLike && cast then sizedName "BINARY" length? none
  else match d.family with
    | .oracle => sizedName "RAW" length? (some "2000")
    | .sqlServer => sizedName "VARBINARY" length? (some "max")
    | .derby => sizedName "VARCHAR" length? (some "32672") ++ " FOR BIT DATA"
    | .firebird => "BLOB"
    | _ => sizedName "VARBINARY" length? none

/-- The name of the type of long byte strings. -/
def blobName (d : Dialect) : String :=
  match d.family with
  | .mySql | .mariaDb => "LONGBLOB"
  | .sqlServer => "VARBINARY(max)"
  | _ => "BLOB"

/-- The name of the type of dates with a time. -/
def timestampName (d : Dialect) : String :=
  match d.family with
  | .sqlServer => "DATETIME2"
  | .sybase | .mySql | .mariaDb | .bigQuery => "DATETIME"
  | _ => "TIMESTAMP"

/-- The name of the type of unique identifiers. -/
def uuidName (d : Dialect) : String :=
  match d.family with
  | .postgres | .yugabyteDb | .h2 | .hsqldb | .duckDb => "UUID"
  | .sqlServer => "UNIQUEIDENTIFIER"
  | .oracle => "VARCHAR2(36)"
  | _ => "CHAR(36)"

/-- The name of the type of JSON documents. -/
def jsonName (d : Dialect) : String :=
  match d.family with
  | .postgres | .yugabyteDb => "JSONB"
  | .oracle => if d.precedes .oracle21c then "CLOB" else "JSON"
  | .sqlServer => "NVARCHAR(max)"
  | .sqlite => "TEXT"
  | .snowflake => "VARIANT"
  | .redshift => "SUPER"
  | _ => "JSON"

/-- The name of the type of lists, given the name of the type of their elements. -/
def arrayName? (d : Dialect) (element : String) : Option String :=
  match d.family with
  | .postgres | .yugabyteDb | .duckDb => some (element ++ "[]")
  | .h2 | .hsqldb => some (element ++ " ARRAY")
  | .trino => some ("ARRAY(" ++ element ++ ")")
  | .bigQuery => some ("ARRAY<" ++ element ++ ">")
  | _ => none

/-- The name of the type of exact numbers, without its size. -/
def exactName (d : Dialect) (cast : Bool) : String :=
  match d.family with
  | .oracle => "NUMBER"
  | .bigQuery => "NUMERIC"
  | .sqlite => if cast then "NUMERIC" else "DECIMAL"
  | _ => "DECIMAL"

/-- The name of a type: as the target of a cast, or else as the type of a column. -/
def typeName (d : Dialect) (cast : Bool) (type : DataType) : Except Error String :=
  let missing : Error := .unsupported d ("data type " ++ type.describe)
  match type with
  | .boolean => .ok d.booleanName
  | .tinyInt => .ok (d.integerName cast d.tinyIntName 3)
  | .smallInt => .ok (d.integerName cast "SMALLINT" 5)
  | .integer => .ok (d.integerName cast (if d.isMySqlLike then "INT" else "INTEGER") 10)
  | .bigInt => .ok (d.integerName cast "BIGINT" 19)
  | .decimal precision? scale? => .ok (decimalName (d.exactName cast) precision? scale?)
  | .real => .ok (d.floatName cast false)
  | .double => .ok (d.floatName cast true)
  | .char length? => .ok (d.charName cast length?)
  | .varChar length? => .ok (d.varCharName cast length?)
  | .clob => .ok (d.clobName cast)
  | .binary length? => .ok (d.anyBinaryName?.getD (d.binaryName cast length?))
  | .varBinary length? => .ok (d.anyBinaryName?.getD (d.varBinaryName cast length?))
  | .blob => .ok (d.anyBinaryName?.getD d.blobName)
  | .date => .ok "DATE"
  | .time => if d.family = .oracle then .error missing else .ok "TIME"
  | .timestamp => .ok d.timestampName
  | .uuid => .ok d.uuidName
  | .json => .ok d.jsonName
  | .array element => do
    match d.arrayName? (← d.typeName cast element) with
    | some name => .ok name
    | none => .error missing
  | .other name => .ok name
  | .unknown => .error (.invalidStatement "cannot render a value of unknown type as a SQL type")

end Dialect

end Polysql

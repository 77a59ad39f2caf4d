import Polysql.Dialect.Feature
import Polysql.Dialect.TypeName
import Polysql.Value
/-!
Values written out as SQL literals.
-/

namespace Polysql.Dialect

/-- A character inside a string literal: a quote is doubled, and so is a backslash where it would
take the next character. -/
def stringChar (d : Dialect) (c : Char) : List Char :=
  if c = '\'' then ['\'', '\'']
  else if c = '\\' ∧ Feature.backslashEscapes.contains d then ['\\', '\\']
  else [c]

/-- A string literal. -/
def stringLiteral (d : Dialect) (s : String) : String :=
  String.ofList ('\'' :: (s.toList.flatMap d.stringChar ++ ['\'']))

/-- A literal of a truth value. -/
def booleanLiteral (d : Dialect) (b : Bool) : String :=
  if Feature.numericBooleans.contains d then
    if b then "1" else "0"
  else
    if b then "TRUE" else "FALSE"

/-- The name of a cast's target. -/
def castName (d : Dialect) (type : DataType) : Except Error String :=
  d.typeName true type

/-- A cast of a literal. -/
def castLiteral (d : Dialect) (literal : String) (type : DataType) : Except Error String :=
  (d.castName type).map fun name => "CAST(" ++ literal ++ " AS " ++ name ++ ")"

/-- A literal of NULL, with its type where engines ask for it. -/
def nullLiteral (d : Dialect) (type : DataType) : Except Error String :=
  if Feature.typedNulls.contains d && !type.isUnknown then d.castLiteral "NULL" type
  else .ok "NULL"

/-- A literal of a double that is not finite, given its name and its name on Oracle. -/
def nonFiniteLiteral (d : Dialect) (x : Float) : Except Error String :=
  let name := if x.isNaN then "NaN" else if 0 < x then "Infinity" else "-Infinity"
  let refused : Error := .unsupported d "non-finite floating point literals"
  match d.family with
  | .postgres | .yugabyteDb | .redshift | .h2 | .hsqldb | .duckDb =>
    d.castLiteral ("'" ++ name ++ "'") .double
  | .oracle =>
    .ok (if x.isNaN then "BINARY_DOUBLE_NAN"
      else if 0 < x then "BINARY_DOUBLE_INFINITY"
      else "-BINARY_DOUBLE_INFINITY")
  | .sqlite =>
    if x.isNaN then .error refused else .ok (if 0 < x then "9e999" else "-9e999")
  | _ => .error refused

/-- A literal of a double. -/
def doubleLiteral (d : Dialect) (x : Float) : Except Error String :=
  if x.isFinite then .ok (FloatText.literal x) else d.nonFiniteLiteral x

/-- A literal of a byte string. -/
def bytesLiteral (d : Dialect) (bs : List UInt8) : String :=
  let hex := String.ofList ((bs.flatMap Text.hexByte).map Char.toUpper)
  match d.family with
  | .sqlServer | .sybase => "0x" ++ hex
  | .oracle => "HEXTORAW('" ++ hex ++ "')"
  | .postgres | .yugabyteDb | .redshift => "decode('" ++ hex ++ "', 'hex')"
  | _ => "X'" ++ hex ++ "'"

/-- A literal of a date or a time: a word and a text, a function of a text, or a cast. -/
def temporalLiteral (d : Dialect) (text keyword : String) (type : DataType) :
    Except Error String :=
  let literal := d.stringLiteral text
  match d.family with
  | .sqlServer | .sybase => d.castLiteral literal type
  | .sqlite | .derby => .ok (keyword ++ "(" ++ literal ++ ")")
  | _ => .ok (keyword ++ " " ++ literal)

/-- A literal of a unique identifier. -/
def uuidLiteral (d : Dialect) (u : Uuid) : Except Error String :=
  let literal := d.stringLiteral u.text
  match d.family with
  | .postgres | .yugabyteDb | .h2 | .hsqldb | .duckDb | .sqlServer =>
    (d.typeName false .uuid).map fun name => "CAST(" ++ literal ++ " AS " ++ name ++ ")"
  | _ => .ok literal

mutual

/-- A literal of a value that is declared as a type. -/
def literal (d : Dialect) (type : DataType) : Value → Except Error String
  | .null => d.nullLiteral type
  | .boolean b => .ok (d.booleanLiteral b)
  | .int32 n => .ok (Int.repr n.toInt)
  | .int64 n => .ok (Int.repr n.toInt)
  | .double x => d.doubleLiteral x
  | .decimal a => .ok a.text
  | .string s => .ok (d.stringLiteral s)
  | .bytes bs => .ok (d.bytesLiteral bs)
  | .date a => d.temporalLiteral a.text "DATE" .date
  | .time t =>
    if d.family = .oracle then .error (.unsupported d "TIME literals")
    else d.temporalLiteral t.text "TIME" .time
  | .timestamp t =>
    d.temporalLiteral t.text (if d.family = .sqlite then "DATETIME" else "TIMESTAMP") .timestamp
  | .uuid u => d.uuidLiteral u
  | .array items =>
    if !Feature.arrayLiterals.contains d then
      .error (.unsupported d "array literals")
    else do
      let element := match type with
        | .array element => element
        | _ => .unknown
      return "ARRAY[" ++ Text.joined ", " (← literals d element items) ++ "]"

/-- Literals of several values that are declared as one type. -/
def literals (d : Dialect) (type : DataType) : List Value → Except Error (List String)
  | [] => return []
  | v :: vs => return (← literal d type v) :: (← literals d type vs)

end

end Polysql.Dialect

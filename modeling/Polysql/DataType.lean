import Polysql.Text.Quoted
/-!
SQL data types, as columns declare them and casts aim at them. A length, a precision or a scale
that is left out stands for whatever the engine takes by default.
-/

namespace Polysql

/-- A SQL data type. -/
inductive DataType where
  | boolean
  | tinyInt
  | smallInt
  | integer
  | bigInt
  | decimal (precision scale : Option Nat)
  | real
  | double
  | char (length : Option Nat)
  | varChar (length : Option Nat)
  | clob
  | binary (length : Option Nat)
  | varBinary (length : Option Nat)
  | blob
  | date
  | time
  | timestamp
  | uuid
  | json
  /-- Lists of elements of one type. -/
  | array (element : DataType)
  /-- A type known by its name only. -/
  | other (name : String)
  /-- The type is not known. -/
  | unknown
deriving DecidableEq, Repr, Inhabited

namespace DataType

/-- Integers of any width. -/
def isInteger : DataType → Bool
  | tinyInt | smallInt | integer | bigInt => true
  | _ => false

/-- Binary floating point numbers. -/
def isFloat : DataType → Bool
  | real | double => true
  | _ => false

/-- Numbers. -/
def isNumeric : DataType → Bool
  | decimal .. => true
  | t => t.isInteger || t.isFloat

/-- Texts. -/
def isString : DataType → Bool
  | char _ | varChar _ | clob => true
  | _ => false

/-- Truth values. -/
def isBoolean : DataType → Bool
  | boolean => true
  | _ => false

/-- Dates and times. -/
def isTemporal : DataType → Bool
  | date | time | timestamp => true
  | _ => false

/-- Byte strings. -/
def isBinary : DataType → Bool
  | binary _ | varBinary _ | blob => true
  | _ => false

/-- The type is not known. -/
def isUnknown : DataType → Bool
  | unknown => true
  | _ => false

/-- The first known type of a list. -/
def firstKnown (types : List DataType) : DataType :=
  (types.find? fun t => !t.isUnknown).getD unknown

/-- An optional number as a message shows it. -/
def describeSize : Option Nat → String
  | some n => "Some(" ++ Nat.repr n ++ ")"
  | none => "None"

/-- The type as a message shows it. -/
def describe : DataType → String
  | boolean => "Boolean"
  | tinyInt => "TinyInt"
  | smallInt => "SmallInt"
  | integer => "Integer"
  | bigInt => "BigInt"
  | decimal p s =>
    "Decimal \x7b precision: " ++ describeSize p ++ ", scale: " ++ describeSize s ++ " \x7d"
  | real => "Real"
  | double => "Double"
  | char n => "Char(" ++ describeSize n ++ ")"
  | varChar n => "VarChar(" ++ describeSize n ++ ")"
  | clob => "Clob"
  | binary n => "Binary(" ++ describeSize n ++ ")"
  | varBinary n => "VarBinary(" ++ describeSize n ++ ")"
  | blob => "Blob"
  | date => "Date"
  | time => "Time"
  | timestamp => "Timestamp"
  | uuid => "Uuid"
  | json => "Json"
  | array element => "Array(" ++ element.describe ++ ")"
  | other name => "Other(" ++ Text.quoted name ++ ")"
  | unknown => "Unknown"

end DataType

end Polysql

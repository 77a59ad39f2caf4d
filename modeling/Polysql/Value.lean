import Polysql.Calendar
import Polysql.DataType
import Polysql.Number.Decimal
import Polysql.Text.Search
/-!
SQL values, the types they are bound as, and the text that messages show for them.
-/

namespace Polysql

/-- A universally unique identifier. Of the documented behaviour of a library's identifiers, the
text with hyphens and the order of the bits, highest first, are taken over; none is made up anew. -/
structure Uuid where
  /-- The 128 bits, the first digit highest. -/
  bits : BitVec 128
deriving DecidableEq, Repr

namespace Uuid

/-- The thirty-two digits in groups of 8, 4, 4, 4 and 12. -/
def text (u : Uuid) : String :=
  let ds := Text.hexDigits u.bits.toNat
  let ds := List.replicate (32 - ds.length) '0' ++ ds
  String.ofList (ds.take 8 ++ '-' :: (ds.drop 8).take 4 ++ '-' :: (ds.drop 12).take 4 ++
    '-' :: (ds.drop 16).take 4 ++ '-' :: ds.drop 20)

/-- The identifier of a text; what is no digit groups them only. -/
def ofText (s : String) : Uuid :=
  ⟨BitVec.ofNat 128 (Text.ofHex s.toList)⟩

end Uuid

/-- A SQL value. -/
inductive Value where
  | null
  | boolean (b : Bool)
  | int32 (n : Int32)
  | int64 (n : Int64)
  | double (x : Float)
  | decimal (d : Decimal)
  | string (s : String)
  | bytes (bs : List UInt8)
  | date (d : Date)
  | time (t : Time)
  | timestamp (t : Timestamp)
  | uuid (u : Uuid)
  /-- Values of one type. -/
  | array (items : List Value)

instance : Inhabited Value := ⟨.null⟩

namespace Value

/-- NULL. -/
def isNull : Value → Bool
  | null => true
  | _ => false

/-- Numbers. -/
def isNumeric : Value → Bool
  | int32 _ | int64 _ | double _ | decimal _ => true
  | _ => false

/-- The truth value, of a truth value. -/
def toBool? : Value → Option Bool
  | boolean b => some b
  | _ => none

/-- The text, of a string. -/
def toString? : Value → Option String
  | string s => some s
  | _ => none

/-- The integer, of an integer of either width. -/
def toInt64? : Value → Option Int64
  | int32 n => some n.toInt64
  | int64 n => some n
  | _ => none

/-- The number as a double. -/
def toFloat? : Value → Option Float
  | int32 n => some n.toInt64.toFloat
  | int64 n => some n.toFloat
  | double x => some x
  | decimal d => some d.toFloat
  | _ => none

/-- The number as a decimal; doubles have none. -/
def toDecimal? : Value → Option Decimal
  | int32 n => some (.ofInt64 n.toInt64)
  | int64 n => some (.ofInt64 n)
  | decimal d => some d
  | _ => none

mutual

/-- The type a value is bound as. -/
def dataType : Value → DataType
  | null => .unknown
  | boolean _ => .boolean
  | int32 _ => .integer
  | int64 _ => .bigInt
  | double _ => .double
  | decimal _ => .decimal none none
  | string _ => .varChar none
  | bytes _ => .varBinary none
  | date _ => .date
  | time _ => .time
  | timestamp _ => .timestamp
  | uuid _ => .uuid
  | array items => .array (.firstKnown (dataTypes items))

/-- The types of several values. -/
def dataTypes : List Value → List DataType
  | [] => []
  | v :: vs => v.dataType :: dataTypes vs

end

/-- The texts between brackets. -/
def bracketed (items : List String) : String :=
  "[" ++ Text.joined ", " items ++ "]"

mutual

/-- The value as a message shows it. -/
def describe : Value → String
  | null => "Null"
  | boolean b => "Bool(" ++ (if b then "true" else "false") ++ ")"
  | int32 n => "I32(" ++ Int.repr n.toInt ++ ")"
  | int64 n => "I64(" ++ Int.repr n.toInt ++ ")"
  | double x => "F64(" ++ FloatText.literal x ++ ")"
  | decimal d => "Decimal(" ++ d.text ++ ")"
  | string s => "String(" ++ Text.quoted s ++ ")"
  | bytes bs => "Bytes(" ++ bracketed (bs.map fun b => Nat.repr b.toNat) ++ ")"
  | date d => "Date(" ++ d.text ++ ")"
  | time t => "Time(" ++ t.text ++ ")"
  | timestamp t => "Timestamp(" ++ t.textWith "T" ++ ")"
  | uuid u => "Uuid(" ++ u.text ++ ")"
  | array items => "Array(" ++ bracketed (describeAll items) ++ ")"

/-- Several values as a message shows them. -/
def describeAll : List Value → List String
  | [] => []
  | v :: vs => v.describe :: describeAll vs

end

end Value

end Polysql

import Polysql.Evaluation.Arithmetic
import Polysql.Number.Reading
import Polysql.Query.Expansion
import Polysql.Text.Blank
/-!
Casts of values to texts, numbers and truth values. What cannot be read as a number fails; what
cannot be read as a truth value is NULL.
-/

namespace Polysql.Value

/-- A value as text: of texts, numbers and truth values. -/
def castString? : Value → Option Value
  | string s => some (string s)
  | boolean b => some (string (if b then "true" else "false"))
  | int32 n => some (string (Int.repr n.toInt))
  | int64 n => some (string (Int.repr n.toInt))
  | double x => some (string (FloatText.plain x))
  | decimal d => some (string d.text)
  | _ => none

/-- A value as a double: of numbers, and of texts that write one. -/
def castFloat? : Value → Option Value
  | string s => (Reading.double? (Text.trim s)).map double
  | v => v.toFloat?.map double

/-- A value as an integer: of integers, of texts that write one, and of doubles without their
fraction. -/
def castInteger? : Value → Option Value
  | string s => ((Reading.integer? (Text.trim s)).bind Int64.ofInt?).map int64
  | double x => some (int64 (Binary64.toInt64 x))
  | v => v.toInt64?.map int64

/-- The truth value that a text stands for, in any ASCII case, or NULL. -/
def truthOfText (s : String) : Value :=
  let word := Text.foldCase (Text.trim s)
  if trueTexts.contains word then boolean true
  else if falseTexts.contains word then boolean false
  else null

/-- A value as a truth value: numbers are true unless they are zero. -/
def castBoolean? : Value → Option Value
  | boolean b => some (boolean b)
  | string s => some (truthOfText s)
  | v => v.toFloat?.map fun x => boolean (x != 0)

/-- A value cast to a type. -/
def cast (v : Value) (type : DataType) : Evaluated Value :=
  if v.isNull then
    .ok null
  else
    orFail ("cannot cast " ++ v.describe ++ " to " ++ type.describe) <|
      if type.isString then v.castString?
      else if type.isFloat then v.castFloat?
      else if type.isInteger then v.castInteger?
      else if type.isBoolean then v.castBoolean?
      else none

end Polysql.Value

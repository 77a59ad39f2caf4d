import Polysql.Name
/-!
The functions that expressions can call.
-/

namespace Polysql

/-- A function with a meaning of its own, or one that is known by its name only. -/
inductive Func where
  | abs
  | ceil
  | floor
  | round
  | sqrt
  | exp
  | ln
  /-- The logarithm; the base comes first. -/
  | log
  | power
  | sign
  | sin
  | cos
  | tan
  | sinh
  | cosh
  | tanh
  | coth
  | least
  | greatest
  | upper
  | lower
  | trim
  | trimStart
  | trimEnd
  | charLength
  | concat
  /-- A part of a text: the text, the first character counted from 1, and a length if it ends
  early. -/
  | substring
  | replace
  /-- A text several times over. -/
  | replicate
  | padStart
  | padEnd
  | left
  | right
  /-- Where a text occurs in another, counted from 1; the one searched for comes first. -/
  | position
  /-- The first argument that is not NULL. -/
  | coalesce
  | nvl
  /-- The second argument when the first is not NULL, else the third. -/
  | nvl2
  /-- The first argument unless it equals the second. -/
  | nullIf
  | currentDate
  | currentTimestamp
  | random
  | count
  | sum
  | avg
  | min
  | max
  /-- A function of the database. -/
  | custom (name : Name)
deriving DecidableEq

namespace Func

/-- The functions with a meaning of their own. -/
def builtins : List Func :=
  [
    .abs, .ceil, .floor, .round, .sqrt, .exp, .ln, .log, .power, .sign, .sin, .cos, .tan, .sinh,
    .cosh, .tanh, .coth, .least, .greatest, .upper, .lower, .trim, .trimStart, .trimEnd,
    .charLength, .concat, .substring, .replace, .replicate, .padStart, .padEnd, .left, .right,
    .position, .coalesce, .nvl, .nvl2, .nullIf, .currentDate, .currentTimestamp, .random, .count,
    .sum, .avg, .min, .max]

/-- The name of a function in the standard; for one of the database, the last part of its name. -/
def name : Func → String
  | abs => "abs"
  | ceil => "ceil"
  | floor => "floor"
  | round => "round"
  | sqrt => "sqrt"
  | exp => "exp"
  | ln => "ln"
  | log => "log"
  | power => "power"
  | sign => "sign"
  | sin => "sin"
  | cos => "cos"
  | tan => "tan"
  | sinh => "sinh"
  | cosh => "cosh"
  | tanh => "tanh"
  | coth => "coth"
  | least => "least"
  | greatest => "greatest"
  | upper => "upper"
  | lower => "lower"
  | trim => "trim"
  | trimStart => "ltrim"
  | trimEnd => "rtrim"
  | charLength => "char_length"
  | concat => "concat"
  | substring => "substring"
  | replace => "replace"
  | replicate => "repeat"
  | padStart => "lpad"
  | padEnd => "rpad"
  | left => "left"
  | right => "right"
  | position => "position"
  | coalesce => "coalesce"
  | nvl => "nvl"
  | nvl2 => "nvl2"
  | nullIf => "nullif"
  | currentDate => "current_date"
  | currentTimestamp => "current_timestamp"
  | random => "random"
  | count => "count"
  | sum => "sum"
  | avg => "avg"
  | min => "min"
  | max => "max"
  | custom n => n.last?.getD ""

/-- The function that has a name in the standard. -/
def ofName? (name : String) : Option Func :=
  builtins.find? fun f => f.name == name

/-- The function runs over the rows of a group. -/
def isAggregate : Func → Bool
  | count | sum | avg | min | max => true
  | _ => false

end Func

end Polysql

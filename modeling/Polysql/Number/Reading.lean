import Polysql.Number.Binary64
/-!
Numbers read from text: an integer is a sign and digits, a double has in addition a point, an
exponent, and names for the values that are not finite.
-/

namespace Polysql.Reading

/-- A sign, taken off the text. -/
def sign : List Char → Bool × List Char
  | '-' :: cs => (true, cs)
  | '+' :: cs => (false, cs)
  | cs => (false, cs)

/-- The value of decimal digits. -/
def ofDigits (ds : List Char) : Nat :=
  ds.foldl (fun n c => 10 * n + (c.toNat - '0'.toNat)) 0

/-- A text of at least one digit. -/
def digits? (cs : List Char) : Option Nat :=
  if !cs.isEmpty && cs.all Char.isDigit then some (ofDigits cs) else none

/-- An integer: an optional sign, then digits. -/
def integer? (s : String) : Option Int :=
  let (negative, cs) := sign s.toList
  (digits? cs).map fun n => if negative then -n else n

/-- What follows the digits of a double: nothing, or an exponent of ten. -/
def exponent? : List Char → Option Int
  | [] => some 0
  | c :: cs =>
    if c = 'e' ∨ c = 'E' then
      let (negative, ds) := sign cs
      (digits? ds).map fun n => if negative then -n else n
    else
      none

/-- A double without its sign: digits before or after the point, then an exponent. -/
def unsigned? (negative : Bool) (cs : List Char) : Option Float :=
  let whole := cs.takeWhile Char.isDigit
  let rest := cs.dropWhile Char.isDigit
  let (fraction, rest) :=
    match rest with
    | '.' :: more => (more.takeWhile Char.isDigit, more.dropWhile Char.isDigit)
    | _ => ([], rest)
  if whole.isEmpty && fraction.isEmpty then
    none
  else
    (exponent? rest).map fun e =>
      Binary64.ofDecimal negative (ofDigits (whole ++ fraction)) (e - fraction.length)

/-- A double: an optional sign, then a number or the name of a value that is not finite. -/
def double? (s : String) : Option Float :=
  let (negative, cs) := sign s.toList
  let name := String.ofList (cs.map Char.toLower)
  if name = "inf" ∨ name = "infinity" then some (if negative then -1 / 0 else 1 / 0)
  else if name = "nan" then some (0 / 0)
  else unsigned? negative cs

end Polysql.Reading

import Polysql.Number.Power
/-!
Double precision numbers as exact dyadic fractions: sign, mantissa and exponent are read from the
bits and put back, so that truncation and remainder are computed without rounding.
-/

namespace Polysql

/-- The number `± mantissa · 2 ^ exponent`. -/
structure Dyadic where
  /-- The number is negative, or a negative zero. -/
  negative : Bool
  /-- The mantissa. -/
  mantissa : Nat
  /-- The exponent of two. -/
  exponent : Int

namespace Dyadic

/-- The least exponent of a double. -/
def minExponent : Int := -1074

/-- The exact value of a finite double. -/
def ofFloat (x : Float) : Dyadic :=
  let bits : Nat := x.toBits.toNat
  let fraction : Nat := bits % twoTo 52
  let biased : Nat := bits / twoTo 52 % twoTo 11
  if biased = 0 then
    ⟨bits / twoTo 63 = 1, fraction, minExponent⟩
  else
    ⟨bits / twoTo 63 = 1, fraction + twoTo 52, (biased : Int) - 1075⟩

/-- The double with this value. The value has to be one that a double can hold: bits that do not
fit are dropped. -/
def toFloat (d : Dyadic) : Float :=
  let sign := if d.negative then twoTo 63 else 0
  if d.mantissa = 0 then
    Float.ofBits (UInt64.ofNat sign)
  else
    let length : Int := (Nat.log2 d.mantissa : Int) + 1
    let exponent := max minExponent (d.exponent + length - 53)
    let shift := d.exponent - exponent
    let m := d.mantissa * twoTo shift.toNat / twoTo (-shift).toNat
    if m < twoTo 52 then
      Float.ofBits (UInt64.ofNat (sign + m))
    else
      Float.ofBits (UInt64.ofNat (sign + (exponent + 1075).toNat * twoTo 52 + (m - twoTo 52)))

/-- The integer between zero and the number that is nearest to the number. -/
def truncate (d : Dyadic) : Int :=
  let size : Nat := d.mantissa * twoTo d.exponent.toNat / twoTo (-d.exponent).toNat
  if d.negative then -size else size

/-- The remainder of a division by `e` whose quotient is truncated; it has the sign of `d`. -/
def remainder (d e : Dyadic) : Dyadic :=
  let common := min d.exponent e.exponent
  let m := d.mantissa * twoTo (d.exponent - common).toNat
  let n := e.mantissa * twoTo (e.exponent - common).toNat
  ⟨d.negative, m % n, common⟩

end Dyadic

namespace Binary64

/-- The integer part of a double; infinities and integers beyond the range go to its nearest end,
and what is not a number goes to zero. -/
def truncateTo (low high : Int) (x : Float) : Int :=
  if x.isNaN then 0
  else if x.isInf then (if x < 0 then low else high)
  else max low (min high (Dyadic.ofFloat x).truncate)

/-- The integer part of a double, within 64 bits. -/
def toInt64 (x : Float) : Int64 :=
  .ofInt (truncateTo Int64.minValue.toInt Int64.maxValue.toInt x)

/-- The exact remainder of two doubles, with the sign of the dividend. -/
def remainder (x y : Float) : Float :=
  if x.isNaN || y.isNaN || x.isInf || y == 0 then 0 / 0
  else if y.isInf || x == 0 then x
  else (Dyadic.remainder (.ofFloat x) (.ofFloat y)).toFloat

/-- The order of two doubles; none when one is not a number. Both zeros are equal. -/
def compare? (x y : Float) : Option Ordering :=
  if x < y then some .lt
  else if x == y then some .eq
  else if y < x then some .gt
  else none

/-- The double nearest to `n · 10 ^ exponent`. -/
def ofDecimal (negative : Bool) (n : Nat) (exponent : Int) : Float :=
  let digits : Int := (Nat.repr n).length
  let size :=
    if n = 0 ∨ digits + exponent < -400 then 0
    else if digits + exponent > 400 then 1 / 0
    else if exponent < 0 then Float.ofScientific n true exponent.natAbs
    else Float.ofScientific n false exponent.toNat
  if negative then -size else size

end Binary64

end Polysql

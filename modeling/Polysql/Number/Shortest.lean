import Polysql.Number.Binary64
/-!
The shortest decimal that reads back as a given double, found in exact arithmetic: on ever finer
decimal grids the two neighbours of the value are tried until one of them lies among the reals that
round to the double. Of two such neighbours the nearer is taken, of two equally near ones the
larger.
-/

namespace Polysql.Shortest

/-- The reals that round to a double, over the common scale `scale / unit`: those between `low` and
`high`, the ends included when `closed`. -/
structure Interval where
  /-- The lower end. -/
  low : Nat
  /-- The double itself. -/
  value : Nat
  /-- The upper end. -/
  high : Nat
  /-- The ends belong to the interval. -/
  closed : Bool
  /-- The exponent of two that the three numbers are multiples of. -/
  exponent : Int

/-- The interval of a positive double. Below a power of two the neighbour is only half as far. -/
def Interval.ofDyadic (d : Dyadic) : Interval :=
  let narrow := d.mantissa = twoTo 52 ∧ d.exponent > Dyadic.minExponent
  { low := if narrow then 4 * d.mantissa - 1 else 4 * d.mantissa - 2
    value := 4 * d.mantissa
    high := 4 * d.mantissa + 2
    closed := d.mantissa % 2 = 0
    exponent := d.exponent - 2 }

/-- The multiple of `10 ^ e` that stands for the double on that grid, if one does. -/
def Interval.onGrid (i : Interval) (e : Int) : Option Nat :=
  let up := twoTo i.exponent.toNat * tenTo (-e).toNat
  let down := twoTo (-i.exponent).toNat * tenTo e.toNat
  let inside (n : Nat) : Bool :=
    if i.closed then i.low * up ≤ n * down && n * down ≤ i.high * up
    else i.low * up < n * down && n * down < i.high * up
  let below := i.value * up / down
  let above := below + 1
  match inside below, inside above with
  | true, true =>
    if 2 * (i.value * up) < (below + above) * down then some below else some above
  | true, false => some below
  | false, true => some above
  | false, false => none

/-- An exponent of ten above that of the double. -/
def exponentAbove (d : Dyadic) : Int :=
  ((Nat.log2 d.mantissa : Int) + d.exponent) * 30103 / 100000 + 2

/-- The number `n · 10 ^ e` without zeros at the end of `n`. -/
def stripZeros : Nat → Nat → Int → Nat × Int
  | 0, n, e => (n, e)
  | fuel + 1, n, e =>
    if n ≠ 0 ∧ n % 10 = 0 then stripZeros fuel (n / 10) (e + 1) else (n, e)

/-- The digits and the exponent of ten of the shortest decimal of a positive double. -/
def digits (d : Dyadic) : Nat × Int :=
  let top := exponentAbove d
  let found := (List.range 20).findSome? fun (n : Nat) =>
    ((Interval.ofDyadic d).onGrid (top - n)).map fun m => (m, top - n)
  match found with
  | some (m, e) => stripZeros 20 m e
  | none => (0, 0)

end Polysql.Shortest

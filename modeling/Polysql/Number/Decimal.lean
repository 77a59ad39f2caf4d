import Polysql.Number.Binary64
import Polysql.Number.FloatText
import Polysql.Number.Reading
/-!
Exact decimal numbers of up to 28 places whose digits fit in 96 bits. Sums and products are exact
as long as they fit; what does not fit loses its last places, a half going to the even neighbour. A
quotient is carried on until it is exact or has no room for further places.

The number of places belongs to a decimal but not to its value: comparison is comparison of the
numbers.
-/

namespace Polysql

/-- The number `coefficient / 10 ^ scale`. The scale is kept: `1.5` and `1.50` are different
decimals of one value. The documented behaviour of a library's decimals is taken over: the bounds
on digits and places, the places that sums, products and quotients have, the rounding of what does
not fit, the text with all places that are kept, and the order of the numbers, which is total. -/
structure Decimal where
  /-- The digits, as an integer with the sign of the number. -/
  coefficient : Int
  /-- The number of places after the point. -/
  scale : Nat
  coefficient_lt : coefficient.natAbs < twoTo 96
  scale_le : scale ≤ 28
deriving DecidableEq

namespace Decimal

/-- The decimal with these digits and places, if it has room for them. -/
def ofParts? (coefficient : Int) (scale : Nat) : Option Decimal :=
  if h : coefficient.natAbs < twoTo 96 ∧ scale ≤ 28 then
    some ⟨coefficient, scale, h.1, h.2⟩
  else
    none

/-- The decimal zero without places. -/
def zero : Decimal := ⟨0, 0, by decide, by decide⟩

theorem natAbs_lt_of_toInt (n : Int64) : n.toInt.natAbs < twoTo 96 := by
  have h₁ := Int64.toInt_lt n
  have h₂ := Int64.le_toInt n
  refine Nat.lt_of_le_of_lt (m := twoTo 63) ?_ (by decide)
  show n.toInt.natAbs ≤ 9223372036854775808
  omega

/-- An integer as a decimal without places. -/
def ofInt64 (n : Int64) : Decimal :=
  ⟨n.toInt, 0, natAbs_lt_of_toInt n, by decide⟩

/-- An integer divided by `d`, a half going to the even neighbour. -/
def roundEven (n : Int) (d : Nat) : Int :=
  let size : Nat := FloatText.roundEven n.natAbs d
  if n < 0 then -size else size

/-- The number `n / 10 ^ scale` with as many of its places as there is room for. -/
def fit? (n : Int) (scale : Nat) : Option Decimal :=
  (List.range (scale + 1)).findSome? fun (dropped : Nat) =>
    ofParts? (roundEven n (tenTo dropped)) (scale - dropped)

/-- The digits of a decimal written with `scale` places. -/
def digitsAt (a : Decimal) (scale : Nat) : Int :=
  a.coefficient * tenTo (scale - a.scale)

/-- The order of the numbers. -/
def compare (a b : Decimal) : Ordering :=
  let scale := max a.scale b.scale
  Ord.compare (a.digitsAt scale) (b.digitsAt scale)

/-- The decimal with the other sign. -/
def neg (a : Decimal) : Decimal :=
  ⟨-a.coefficient, a.scale, (Int.natAbs_neg a.coefficient).symm ▸ a.coefficient_lt, a.scale_le⟩

/-- The decimal without its sign. -/
def abs (a : Decimal) : Decimal :=
  ⟨a.coefficient.natAbs, a.scale, a.coefficient_lt, a.scale_le⟩

/-- The sum, with the places of the longer operand. A zero operand leaves the other as it is. -/
def add? (a b : Decimal) : Option Decimal :=
  if a.coefficient = 0 then some b
  else if b.coefficient = 0 then some a
  else
    let scale := max a.scale b.scale
    fit? (a.digitsAt scale + b.digitsAt scale) scale

/-- The difference. -/
def sub? (a b : Decimal) : Option Decimal :=
  add? a b.neg

/-- The product, with the places of both operands. -/
def mul? (a b : Decimal) : Option Decimal :=
  let scale := a.scale + b.scale
  if a.coefficient = 0 ∨ b.coefficient = 0 then
    some zero
  -- such a product has no digit within the places there are
  else if a.coefficient.natAbs < twoTo 32 ∧ b.coefficient.natAbs < twoTo 32 ∧ 47 < scale then
    some zero
  else
    fit? (a.coefficient * b.coefficient) scale

/-- How many digits a quotient of `scale` places can take on at once: at most nine, and no more than
there are places and room for. -/
def room (quotient : Nat) (scale : Int) : Nat :=
  ((List.range 10).reverse.find? fun (k : Nat) =>
    scale + k ≤ 28 && quotient * tenTo k < twoTo 96).getD 0

/-- Zeros at the end of a quotient are taken off in groups of eight, four, two and one. -/
def dropZeros (size : Nat) (test : Nat) : Nat × Nat → Nat × Nat
  | (n, scale) =>
    if n % test = 0 ∧ size ≤ scale ∧ n % tenTo size = 0 then
      (n / tenTo size, scale - size)
    else
      (n, scale)

/-- A quotient with its zeros at the end taken off. A group of eight is looked for only where the
low half of the digits vanishes, so up to seven zeros are removed in general. -/
def tidy (n scale : Nat) : Nat × Nat :=
  let eights (p : Nat × Nat) := dropZeros 8 (twoTo 32) p
  dropZeros 1 2 <| dropZeros 2 4 <| dropZeros 4 16 <| eights <| eights <| eights (n, scale)

/-- A quotient that has outgrown its digits by one, cut by one place. -/
def cut? (n : Nat) (scale : Int) (sticky : Bool) : Option (Nat × Nat) :=
  if scale < 1 then
    none
  else
    let q := n / 10
    let r := n % 10
    let up := 5 < r || (r == 5 && (sticky || q % 2 == 1))
    some (if up then q + 1 else q, (scale - 1).toNat)

/-- Long division carried on: the quotient so far with its places, and the remainder. The number of
places grows with every round, so that thirty rounds always suffice. -/
def longDivision (divisor : Nat) : Nat → Nat → Int → Nat → Option (Nat × Nat)
  | 0, _, _, _ => none
  | rounds + 1, quotient, scale, rest =>
    if rest = 0 ∧ 0 ≤ scale then
      some (quotient, scale.toNat)
    else
      -- without a rest, the places that are missing are zeros
      let step := if rest = 0 then min 9 scale.natAbs else room quotient scale
      if rest ≠ 0 ∧ scale + step < 0 then
        none
      else if rest ≠ 0 ∧ step = 0 then
        -- no room for another digit, so the last one is rounded, a half to even
        let up := divisor < 2 * rest || (2 * rest == divisor && quotient % 2 == 1)
        if !up then some (quotient, scale.toNat)
        else if quotient + 1 < twoTo 96 then some (quotient + 1, scale.toNat)
        else cut? (quotient + 1) scale true
      else
        let scaled := rest * tenTo step
        let next := quotient * tenTo step + scaled / divisor
        let rest := scaled % divisor
        if next < twoTo 96 then longDivision divisor rounds next (scale + step) rest
        else if quotient * tenTo step < twoTo 96 then cut? next (scale + step) (rest ≠ 0)
        else none

/-- The quotient. It is absent when the divisor is zero and when the result is too large. -/
def div? (a b : Decimal) : Option Decimal :=
  if b.coefficient = 0 then none
  else if a.coefficient = 0 then some zero
  else
    let m := a.coefficient.natAbs
    let n := b.coefficient.natAbs
    let scale : Int := (a.scale : Int) - b.scale
    match longDivision n 60 (m / n) scale (m % n) with
    | none => none
    | some (quotient, places) =>
      -- a quotient that is whole keeps its zeros
      let exact := m % n = 0
      let (digits, places) := if exact then (quotient, places) else tidy quotient places
      let negative := (a.coefficient < 0) != (b.coefficient < 0)
      ofParts? (if negative then -digits else digits) places

/-- The remainder of a truncated division, with the sign of the dividend. It is absent when the
divisor is zero. A dividend smaller than the divisor is left as it is. -/
def rem? (a b : Decimal) : Option Decimal :=
  if b.coefficient = 0 then none
  else if a.coefficient = 0 then some zero
  else
    let scale := max a.scale b.scale
    let m := a.digitsAt scale
    let n := b.digitsAt scale
    if m.natAbs = n.natAbs then some zero
    else if m.natAbs < n.natAbs then some a
    else ofParts? (Int.tmod m n) scale

/-- The text: a sign, the digits, and a point before the last `scale` of them. -/
def text (a : Decimal) : String :=
  (if a.coefficient < 0 then "-" else "") ++
    FloatText.positional a.coefficient.natAbs (-a.scale)

/-- The decimal that a text writes, if there is room for it. -/
def ofText? (s : String) : Option Decimal :=
  let (negative, cs) := Reading.sign s.toList
  let whole := cs.takeWhile (· != '.')
  let fraction := (cs.dropWhile (· != '.')).drop 1
  match Reading.digits? (whole ++ fraction) with
  | none => none
  | some n => ofParts? (if negative then -n else n) fraction.length

/-- `r · x ^ n` in doubles by repeated squaring, for an exponent of at most `bits` bits. -/
def powFloat (r x : Float) (n : Nat) : Nat → Float
  | 0 => r
  | bits + 1 => powFloat (if n % 2 = 1 then r * x else r) (x * x) (n / 2) bits

/-- The double that stands for a decimal: the integer part and the fraction are converted apart,
and their sum is rounded to the places of the decimal. -/
def toFloat (a : Decimal) : Float :=
  let n := a.coefficient.natAbs
  let unit := tenTo a.scale
  let whole := Binary64.ofDecimal false (n / unit) 0
  let fraction := Binary64.ofDecimal false (n % unit) 0 / Binary64.ofDecimal false unit 0
  let size :=
    if a.scale = 0 ∨ fraction == 0 then
      whole
    else
      let factor := powFloat 1 10 a.scale 5
      ((whole + fraction) * factor).round / factor
  if a.coefficient < 0 then -size else size

end Decimal

end Polysql

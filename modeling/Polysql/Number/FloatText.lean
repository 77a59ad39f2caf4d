import Polysql.Number.Shortest
/-!
Doubles as text. In statements and messages they carry a point or an exponent, so that they are not
taken for integers; as strings they are written out in full.
-/

namespace Polysql.FloatText

/-- The digits of `n · 10 ^ e` with a decimal point, without a fraction when there is none. -/
def positional (n : Nat) (e : Int) : String :=
  let ds := (Nat.repr n).toList
  if 0 ≤ e then
    String.ofList (ds ++ List.replicate e.toNat '0')
  else
    let places := e.natAbs
    let padded := List.replicate (places + 1 - ds.length) '0' ++ ds
    let whole := padded.length - places
    String.ofList (padded.take whole ++ '.' :: padded.drop whole)

/-- One digit, the point and the other digits, and the exponent of ten. -/
def scientific (n : Nat) (e : Int) : String :=
  let ds := (Nat.repr n).toList
  let mantissa :=
    match ds with
    | [] => []
    | [d] => [d]
    | d :: rest => d :: '.' :: rest
  String.ofList mantissa ++ "e" ++ toString (e + ds.length - 1)

/-- The exponent of ten in the scientific form of `n · 10 ^ e`. -/
def magnitude (n : Nat) (e : Int) : Int :=
  e + (Nat.repr n).length - 1

/-- The text of a finite double, with the form of its shortest decimal given. -/
def finite (zero : String) (form : Nat → Int → String) (x : Float) : String :=
  let d := Dyadic.ofFloat x
  let sign := if d.negative then "-" else ""
  if d.mantissa = 0 then
    sign ++ zero
  else
    let (n, e) := Shortest.digits d
    sign ++ form n e

/-- The text of a double, with the text of a finite one given. -/
def withSpecials (text : Float → String) (x : Float) : String :=
  if x.isNaN then "NaN"
  else if x.isInf then (if x < 0 then "-inf" else "inf")
  else text x

/-- The literal form: positional with a point from `10 ^ -4` up to `10 ^ 16`, with an exponent
elsewhere. -/
def literal : Float → String :=
  withSpecials <| finite "0.0" fun n e =>
    if magnitude n e < -4 ∨ 16 ≤ magnitude n e then scientific n e
    else if 0 ≤ e then positional n e ++ ".0"
    else positional n e

/-- The plain form: every digit, and never an exponent. -/
def plain : Float → String :=
  withSpecials <| finite "0" positional

/-- The quotient rounded to the nearest integer, a half to the even neighbour. -/
def roundEven (n d : Nat) : Nat :=
  let q := n / d
  let r := n % d
  if 2 * r < d then q
  else if d < 2 * r then q + 1
  else if q % 2 = 0 then q else q + 1

/-- A positive double rounded to `places + 1` significant digits: the digits and the exponent of
ten of the last one. -/
def significant (places : Nat) (d : Dyadic) : Nat × Int :=
  let top := Shortest.exponentAbove d
  let attempt (e : Int) : Nat :=
    roundEven (d.mantissa * twoTo d.exponent.toNat * tenTo (-e).toNat)
      (twoTo (-d.exponent).toNat * tenTo e.toNat)
  let enough := (List.range 4).find? fun (k : Nat) =>
    tenTo places ≤ attempt (top - places - k)
  let e := top - places - enough.getD 0
  let n := attempt e
  if n = tenTo (places + 1) then (n / 10, e + 1) else (n, e)

/-- A finite double with `places` digits after the point and an exponent. -/
def fixedScientific (places : Nat) (x : Float) : String :=
  let d := Dyadic.ofFloat x
  let sign := if d.negative then "-" else ""
  let (n, e) :=
    if d.mantissa = 0 then (0, 0) else
      let (n, e) := significant places d
      (n, e + places)
  let ds := (Nat.repr n).toList
  let padded := ds ++ List.replicate (places + 1 - ds.length) '0'
  sign ++ String.ofList (padded.take 1 ++ '.' :: padded.drop 1) ++ "e" ++ toString e

end Polysql.FloatText

import Polysql.Operator
import Polysql.Value.Order
/-!
Three-valued logic. A condition is true, false, or unknown when NULL is involved; conjunction,
disjunction and negation are those of Kleene.
-/

namespace Polysql

/-- The outcome of a condition; `none` is unknown. -/
abbrev Truth := Option Bool

namespace Truth

/-- True if all are true, false if one is false. -/
def all (ts : List Truth) : Truth :=
  if ts.contains (some false) then some false
  else if ts.contains none then none
  else some true

/-- True if one is true, false if all are false. -/
def any (ts : List Truth) : Truth :=
  if ts.contains (some true) then some true
  else if ts.contains none then none
  else some false

/-- True for false, and false for true. -/
def not (t : Truth) : Truth :=
  t.map (!·)

/-- The truth, turned round if asked for. -/
def negateIf (negate : Bool) (t : Truth) : Truth :=
  t.map (· != negate)

/-- One of two is true and the other is false. -/
def xor (s t : Truth) : Truth :=
  match s, t with
  | some a, some b => some (a != b)
  | _, _ => none

/-- A comparison of two values, unknown when they cannot be compared. -/
def compare (a : Value) (op : CompareOp) (b : Value) : Truth :=
  (a.compare? b).map op.holds

/-- The truth as a value: unknown is NULL. -/
def toValue : Truth → Value
  | some b => .boolean b
  | none => .null

@[simp] theorem negateIf_false (t : Truth) : negateIf false t = t := by
  cases t <;> simp [negateIf]

theorem negateIf_true (t : Truth) : negateIf true t = t.not := by
  cases t <;> simp [negateIf, not]

@[simp] theorem not_not (t : Truth) : t.not.not = t := by
  cases t <;> simp [not]

end Truth

/-! ### Rows -/

namespace Truth

/-- Two rows are equal value by value. -/
def rowsEqual (pairs : List (Value × Value)) : Truth :=
  all (pairs.map fun (a, b) => compare a .eq b)

/-- The ways in which the first row of a pair can come before the second: at each place, the values
before it are equal and those at it are in order. -/
def waysToPrecede (op : CompareOp) (equal : List Truth) : List (Value × Value) → List Truth
  | [] => []
  | [(a, b)] => [all (equal ++ [compare a op b])]
  | (a, b) :: rest =>
    all (equal ++ [compare a op.strict b]) ::
      waysToPrecede op (equal ++ [compare a .eq b]) rest

/-- A comparison of two rows, the first differing place deciding the order. -/
def compareRows (op : CompareOp) (pairs : List (Value × Value)) : Truth :=
  match op with
  | .eq => rowsEqual pairs
  | .ne => (rowsEqual pairs).not
  | op => any (waysToPrecede op [] pairs)

end Truth

end Polysql

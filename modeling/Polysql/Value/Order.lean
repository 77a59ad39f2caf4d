import Polysql.Value
/-!
Comparison of values as SQL has it. Numbers of all kinds are compared with each other, other values
with their own kind only, and NULL with nothing.
-/

namespace Polysql

/-- The order of two byte strings: byte by byte, a shorter one before its continuations. -/
def compareBytes : List UInt8 → List UInt8 → Ordering
  | [], [] => .eq
  | [], _ :: _ => .lt
  | _ :: _, [] => .gt
  | a :: as, b :: bs => (Ord.compare a.toNat b.toNat).then (compareBytes as bs)

namespace Value

/-- The order of two numbers: that of doubles when either is one, else the exact one. -/
def compareNumbers? (a b : Value) : Option Ordering :=
  match a, b with
  | double x, _ => do Binary64.compare? x (← b.toFloat?)
  | _, double y => do Binary64.compare? (← a.toFloat?) y
  | _, _ => do return (← a.toDecimal?).compare (← b.toDecimal?)

/-- The order of two values; none when one is NULL or they cannot be compared. -/
def compare? (a b : Value) : Option Ordering :=
  match a, b with
  | boolean x, boolean y => some (Ord.compare x.toNat y.toNat)
  | string s, string t => some (compareOfLessAndEq s t)
  | bytes s, bytes t => some (compareBytes s t)
  | date d, date e => some (d.compare e)
  | time t, time u => some (t.compare u)
  | timestamp t, timestamp u => some (t.compare u)
  | uuid u, uuid v => some (Ord.compare u.bits.toNat v.bits.toNat)
  | _, _ => compareNumbers? a b

/-- Equality; unknown when the values cannot be compared. -/
def equal? (a b : Value) : Option Bool :=
  (a.compare? b).map (· == .eq)

/-- The values are not distinct: both are NULL, or they are known to be equal. -/
def notDistinct (a b : Value) : Bool :=
  match a.isNull, b.isNull with
  | true, true => true
  | false, false => (a.equal? b).getD false
  | _, _ => false

end Value

end Polysql

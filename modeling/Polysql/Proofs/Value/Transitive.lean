import Mathlib.Algebra.Order.Field.Rat
import Mathlib.Data.Rat.Cast.Order
import Mathlib.Order.Compare
import Mathlib.Tactic.FieldSimp
import Polysql.Evaluation.Truth
import Polysql.Proofs.Value.Order
/-!
The order of values in which no double takes part. Decimals are in the order of the rational numbers
that they stand for (`Decimal.compare_eq`), and every other kind of value is in an order that looks
at one component after the other. So the order is transitive, as far as values can be compared at
all (`Value.Compares.trans`), and so is the comparison with `<=` (`Truth.compare_le_trans`).

Doubles have to stay out: next to one, integers and decimals are compared as doubles, and two
numbers that differ can be equal to the same double.
-/

namespace Polysql

open Std (TransCmp TransOrd)

/-! ### Orderings -/

lemma isLE_then {o p : Ordering} (ho : o.isLE) (hp : p.isLE) : (o.then p).isLE := by
  cases o with
  | lt => rfl
  | eq => exact hp
  | gt => cases ho

/-- In a transitive order, what is at most a second one is before a third one or equal to it as the
two steps are. -/
lemma compare_eq_then {α : Type} {cmp : α → α → Ordering} [TransCmp cmp] {a b c : α}
    (hab : (cmp a b).isLE) (hbc : (cmp b c).isLE) : cmp a c = (cmp a b).then (cmp b c) := by
  cases h : cmp a b with
  | lt => exact TransCmp.lt_of_lt_of_isLE h hbc
  | eq => exact TransCmp.congr_left h
  | gt =>
    rw [h] at hab
    cases hab

/-! ### Decimals -/

/-- The number that a decimal stands for. -/
def Decimal.toRat (a : Decimal) : ℚ :=
  a.coefficient / 10 ^ a.scale

lemma Decimal.digitsAt_eq (a : Decimal) {scale : Nat} (h : a.scale ≤ scale) :
    (a.digitsAt scale : ℚ) = a.toRat * 10 ^ scale := by
  obtain ⟨k, rfl⟩ := Nat.exists_eq_add_of_le h
  have htenTo : ((tenTo k : ℕ) : ℚ) = 10 ^ k := Nat.cast_pow 10 k
  rw [digitsAt, toRat, Nat.add_sub_cancel_left, pow_add, Int.cast_mul, Int.cast_natCast, htenTo]
  field_simp

/-- Decimals are in the order of the numbers they stand for, whatever their places. -/
theorem Decimal.compare_eq (a b : Decimal) : a.compare b = Ord.compare a.toRat b.toRat := by
  have hmono : StrictMono fun q : ℚ => q * 10 ^ max a.scale b.scale :=
    fun _ _ hlt => mul_lt_mul_of_pos_right hlt (pow_pos (by norm_num) _)
  rw [Decimal.compare, ← cmp_eq_compare, ← cmp_eq_compare, ← hmono.cmp_map_eq,
    ← Int.cast_strictMono (R := ℚ) |>.cmp_map_eq, digitsAt_eq a (le_max_left _ _),
    digitsAt_eq b (le_max_right _ _)]

instance : TransCmp Decimal.compare := by
  have hcompare : Decimal.compare = compareOn Decimal.toRat := funext₂ Decimal.compare_eq
  rw [hcompare]
  infer_instance

/-! ### Values of one kind -/

instance : TransCmp compareBytes := by
  have hcompare : compareBytes = List.compareLex (compareOn UInt8.toNat) := by
    funext s t
    induction s generalizing t with
    | nil => cases t <;> rfl
    | cons a s ih =>
      cases t with
      | nil => rfl
      | cons b t => rw [compareBytes, ih, List.compareLex_cons_cons]; rfl
  rw [hcompare]
  infer_instance

instance : TransCmp Date.compare :=
  inferInstanceAs (TransCmp (compareLex (compareOn Date.year)
    (compareLex (compareOn Date.month) (compareOn Date.day))))

instance : TransCmp Time.compare :=
  inferInstanceAs (TransCmp (compareLex (compareOn Time.hour)
    (compareLex (compareOn Time.minute) (compareLex (compareOn Time.second)
      (compareOn Time.nano)))))

instance : TransCmp Timestamp.compare :=
  letI : Ord Date := ⟨Date.compare⟩
  letI : Ord Time := ⟨Time.compare⟩
  haveI : TransOrd Date := inferInstanceAs (TransCmp Date.compare)
  haveI : TransOrd Time := inferInstanceAs (TransCmp Time.compare)
  inferInstanceAs (TransCmp (compareLex (compareOn Timestamp.date) (compareOn Timestamp.time)))

/-! ### All values but doubles -/

namespace Value

/-- The value is a double. -/
def isDouble : Value → Bool
  | double _ => true
  | _ => false

/-- The order of two values that can be compared without a double: values of one kind, or two
numbers. -/
inductive Compares : Value → Value → Ordering → Prop
  | booleans (x y : Bool) : Compares (boolean x) (boolean y) (compareOn Bool.toNat x y)
  | strings (s t : String) : Compares (string s) (string t) (Ord.compare s t)
  | bytes (s t : List UInt8) : Compares (bytes s) (bytes t) (compareBytes s t)
  | dates (d e : Date) : Compares (date d) (date e) (d.compare e)
  | times (t u : Time) : Compares (time t) (time u) (t.compare u)
  | timestamps (t u : Timestamp) : Compares (timestamp t) (timestamp u) (t.compare u)
  | uuids (u v : Uuid) : Compares (uuid u) (uuid v) (compareOn (fun u => u.bits.toNat) u v)
  | numbers {a b : Value} {x y : Decimal} (ha : a.toDecimal? = some x)
      (hb : b.toDecimal? = some y) : Compares a b (x.compare y)

variable {a b c : Value} {o p : Ordering}

lemma exists_of_compareNumbers? (ha : a.isDouble = false) (hb : b.isDouble = false)
    (h : a.compareNumbers? b = some o) : Compares a b o := by
  rw [compareNumbers?.eq_def] at h
  split at h
  · cases ha
  · cases hb
  · obtain ⟨x, hx, h⟩ := Option.bind_eq_some_iff.mp h
    obtain ⟨y, hy, h⟩ := Option.bind_eq_some_iff.mp h
    cases h
    exact .numbers hx hy

/-- Comparison is the order of values of one kind, and of numbers. -/
lemma compare?_eq_some_iff (ha : a.isDouble = false) (hb : b.isDouble = false) :
    a.compare? b = some o ↔ Compares a b o := by
  constructor
  · intro h
    rw [compare?.eq_def] at h
    split at h
    case h_8 => exact exists_of_compareNumbers? ha hb h
    all_goals cases h; constructor
  · intro h
    cases h with
    | numbers hx hy => cases a <;> cases hx <;> cases b <;> cases hy <;> rfl
    | _ => rfl

/-- Values that can be compared with one value can be compared with each other, and what is at most
what is at most a third value is at most that, and equal to it only if both are equal. -/
theorem Compares.trans (hab : Compares a b o) (hbc : Compares b c p) :
    ∃ q, Compares a c q ∧ (o.isLE → p.isLE → q = o.then p) := by
  -- values in the middle are of one kind only, so both comparisons are of that kind
  cases hab with
  | booleans x y =>
    cases hbc with
    | booleans _ z => exact ⟨_, .booleans x z, compare_eq_then⟩
    | numbers hy _ => cases hy
  | strings s t =>
    cases hbc with
    | strings _ u => exact ⟨_, .strings s u, compare_eq_then⟩
    | numbers hy _ => cases hy
  | bytes s t =>
    cases hbc with
    | bytes _ u => exact ⟨_, .bytes s u, compare_eq_then⟩
    | numbers hy _ => cases hy
  | dates d e =>
    cases hbc with
    | dates _ f => exact ⟨_, .dates d f, compare_eq_then⟩
    | numbers hy _ => cases hy
  | times t u =>
    cases hbc with
    | times _ v => exact ⟨_, .times t v, compare_eq_then⟩
    | numbers hy _ => cases hy
  | timestamps t u =>
    cases hbc with
    | timestamps _ v => exact ⟨_, .timestamps t v, compare_eq_then⟩
    | numbers hy _ => cases hy
  | uuids u v =>
    cases hbc with
    | uuids _ w => exact ⟨_, .uuids u w, compare_eq_then⟩
    | numbers hy _ => cases hy
  | numbers hx hy =>
    cases hbc with
    | numbers hy' hz =>
      obtain rfl := Option.some.inj (hy.symm.trans hy')
      exact ⟨_, .numbers hx hz, compare_eq_then⟩
    | _ => cases hy

/-- Of three values without doubles, the order of the first two and that of the last two give that
of the first and the last. -/
lemma compare?_trans (ha : a.isDouble = false) (hb : b.isDouble = false) (hc : c.isDouble = false)
    (hab : a.compare? b = some o) (hbc : b.compare? c = some p) (ho : o.isLE) (hp : p.isLE) :
    a.compare? c = some (o.then p) := by
  obtain ⟨q, hac, hq⟩ :=
    ((compare?_eq_some_iff ha hb).mp hab).trans ((compare?_eq_some_iff hb hc).mp hbc)
  rw [← hq ho hp]
  exact (compare?_eq_some_iff ha hc).mpr hac

end Value

namespace Truth

variable {a b c : Value}

lemma compare_le_iff : compare a .le b = some true ↔ ∃ o, a.compare? b = some o ∧ o.isLE := by
  rw [compare, Option.map_eq_some_iff]
  refine exists_congr fun o => and_congr_right' ?_
  cases o <;> decide

/-- At least is at most, turned round. -/
lemma compare_ge (a b : Value) : compare a .ge b = compare b .le a := by
  rw [compare, compare, Value.compare?_swap b a]
  rcases b.compare? a with _ | _ | _ | _ <;> rfl

/-- **Transitivity away from doubles.** -/
theorem compare_le_trans (ha : a.isDouble = false) (hb : b.isDouble = false)
    (hc : c.isDouble = false) (hab : compare a .le b = some true)
    (hbc : compare b .le c = some true) : compare a .le c = some true := by
  obtain ⟨o, hab, ho⟩ := compare_le_iff.mp hab
  obtain ⟨p, hbc, hp⟩ := compare_le_iff.mp hbc
  exact compare_le_iff.mpr ⟨o.then p, Value.compare?_trans ha hb hc hab hbc ho hp,
    isLE_then ho hp⟩

end Truth

end Polysql

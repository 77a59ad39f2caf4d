import Mathlib.Tactic.Lemma
import Polysql.Value.Order
/-!
The comparison of values does not depend on which of the two comes first: turned round, it has the
opposite outcome, and none exactly where it had none (`Value.compare?_swap`). So equality of values
is symmetric, also where it is unknown. A value is equal to itself, unless it is NULL or of the few
that are not comparable at all (`Value.compare?_self`).
-/

namespace Polysql

/-! ### Numbers -/

/-- The order of two unpacked doubles, turned round. -/
lemma unpacked_compare_swap (a b : Float.Model.UnpackedFloat) :
    b.compare a = (a.compare b).map Ordering.swap := by
  -- the kinds of doubles in pairs; signs decide unless both are finite
  cases a with
  | notANumber => cases b <;> rfl
  | infinity s =>
    cases b with
    | notANumber => cases s <;> rfl
    | infinity t => cases s <;> cases t <;> rfl
    | zero t => cases s <;> rfl
    | finite t => cases s <;> cases t <;> rfl
  | zero s =>
    cases b with
    | notANumber => rfl
    | infinity t => cases t <;> rfl
    | zero t => rfl
    | finite t => cases t <;> rfl
  | finite s m e =>
    cases b with
    | notANumber => cases s <;> rfl
    | infinity t => cases s <;> cases t <;> rfl
    | zero t => cases s <;> rfl
    | finite t n f =>
      -- exponents first, and then the digits
      have hswap : (compare f e).then (compare n m) =
          ((compare e f).then (compare m n)).swap := by
        rw [Ordering.swap_then, ← Std.OrientedOrd.eq_swap, ← Std.OrientedOrd.eq_swap]
      cases s <;> cases t
      · exact congrArg (some ∘ Ordering.swap) hswap
      · rfl
      · rfl
      · exact congrArg some hswap

/-- The order of two doubles is that of their logical model. -/
lemma Binary64.compare?_eq (x y : Float) :
    Binary64.compare? x y = x.toModel.unpack.compare y.toModel.unpack := by
  have hlt (x y : Float) : x < y ↔ x.toModel.unpack.compare y.toModel.unpack = some .lt := by
    change decide (x.toModel < y.toModel) = true ↔ _
    rw [decide_eq_true_iff]
    change (x.toModel.unpack.compare y.toModel.unpack == some .lt) = true ↔ _
    rw [beq_iff_eq]
  have heq : (x == y) = true ↔ x.toModel.unpack.compare y.toModel.unpack = some .eq := by
    change (x.toModel.unpack.compare y.toModel.unpack == some .eq) = true ↔ _
    rw [beq_iff_eq]
  rw [Binary64.compare?]
  simp only [hlt, heq, unpacked_compare_swap x.toModel.unpack y.toModel.unpack]
  cases x.toModel.unpack.compare y.toModel.unpack with
  | none => rfl
  | some o => cases o <;> rfl

lemma Binary64.compare?_swap (x y : Float) :
    Binary64.compare? y x = (Binary64.compare? x y).map Ordering.swap := by
  rw [compare?_eq, compare?_eq, unpacked_compare_swap]

/-- A double is equal to itself, unless it is no number. -/
lemma Binary64.compare?_self (x : Float) :
    Binary64.compare? x x = if x.isNaN then none else some .eq := by
  rw [compare?_eq]
  change _ = if x.toModel.unpack.isNaN then none else some Ordering.eq
  cases x.toModel.unpack with
  | notANumber => rfl
  | infinity s => cases s <;> rfl
  | zero s => rfl
  | finite s m e =>
    have hself : (compare e e).then (compare m m) = Ordering.eq := by simp
    cases s
    · exact congrArg (some ∘ Ordering.swap) hself
    · exact congrArg some hself

lemma Decimal.compare_swap (a b : Decimal) : b.compare a = (a.compare b).swap := by
  rw [Decimal.compare, Decimal.compare, Nat.max_comm, ← Std.OrientedOrd.eq_swap]

/-! ### Values of one kind -/

lemma compareStrings_swap (s t : String) :
    compareOfLessAndEq t s = (compareOfLessAndEq s t).swap :=
  Std.OrientedOrd.eq_swap (α := String)

lemma compareBytes_swap : ∀ s t : List UInt8, compareBytes t s = (compareBytes s t).swap
  | [], [] => rfl
  | [], _ :: _ => rfl
  | _ :: _, [] => rfl
  | a :: s, b :: t => by
    rw [compareBytes, compareBytes, Ordering.swap_then, ← compareBytes_swap s t,
      ← Std.OrientedOrd.eq_swap]

lemma Date.compare_swap (d e : Date) : e.compare d = (d.compare e).swap := by
  simp only [Date.compare, Ordering.swap_then, ← Std.OrientedOrd.eq_swap]

lemma Time.compare_swap (t u : Time) : u.compare t = (t.compare u).swap := by
  simp only [Time.compare, Ordering.swap_then, ← Std.OrientedOrd.eq_swap]

lemma Timestamp.compare_swap (t u : Timestamp) : u.compare t = (t.compare u).swap := by
  rw [Timestamp.compare, Timestamp.compare, Ordering.swap_then, ← Date.compare_swap,
    ← Time.compare_swap]

/-! ### All values -/

namespace Value

lemma compareNumbers?_swap (a b : Value) :
    b.compareNumbers? a = (a.compareNumbers? b).map Ordering.swap := by
  cases a <;> cases b <;>
    first
    | rfl
    | exact Binary64.compare?_swap _ _
    | exact congrArg some (Decimal.compare_swap _ _)

/-- **Comparison, turned round.** -/
theorem compare?_swap (a b : Value) : b.compare? a = (a.compare? b).map Ordering.swap := by
  -- each kind with itself, and all else as numbers, of which there may be none
  cases a with
  | boolean =>
    cases b with
    | boolean => exact congrArg some Std.OrientedOrd.eq_swap
    | _ => simp only [compare?]; exact compareNumbers?_swap _ _
  | string =>
    cases b with
    | string => exact congrArg some (compareStrings_swap _ _)
    | _ => simp only [compare?]; exact compareNumbers?_swap _ _
  | bytes =>
    cases b with
    | bytes => exact congrArg some (compareBytes_swap _ _)
    | _ => simp only [compare?]; exact compareNumbers?_swap _ _
  | date =>
    cases b with
    | date => exact congrArg some (Date.compare_swap _ _)
    | _ => simp only [compare?]; exact compareNumbers?_swap _ _
  | time =>
    cases b with
    | time => exact congrArg some (Time.compare_swap _ _)
    | _ => simp only [compare?]; exact compareNumbers?_swap _ _
  | timestamp =>
    cases b with
    | timestamp => exact congrArg some (Timestamp.compare_swap _ _)
    | _ => simp only [compare?]; exact compareNumbers?_swap _ _
  | uuid =>
    cases b with
    | uuid => exact congrArg some Std.OrientedOrd.eq_swap
    | _ => simp only [compare?]; exact compareNumbers?_swap _ _
  | _ => cases b <;> simp only [compare?] <;> exact compareNumbers?_swap _ _

/-- Equality of values is symmetric, also where it is unknown. -/
lemma equal?_comm (a b : Value) : a.equal? b = b.equal? a := by
  rw [equal?, equal?, compare?_swap a b]
  cases a.compare? b with
  | none => rfl
  | some o => cases o <;> rfl

/-! ### NULL -/

lemma isNull_iff {v : Value} : v.isNull = true ↔ v = null := by
  cases v <;> simp [isNull]

lemma compare?_null_left (v : Value) : null.compare? v = none := by
  cases v <;> rfl

lemma compare?_null_right (v : Value) : v.compare? null = none := by
  cases v <;> rfl

/-! ### A value and itself -/

/-- The value is not comparable with anything, although it is not NULL. -/
def isIncomparable : Value → Bool
  | double x => x.isNaN
  | array _ => true
  | _ => false

lemma compareBytes_self (bs : List UInt8) : compareBytes bs bs = .eq := by
  induction bs with
  | nil => rfl
  | cons b bs ih => rw [compareBytes, ih, Std.ReflOrd.compare_self]; rfl

/-- A value is equal to itself, unless it is NULL or not comparable. -/
lemma compare?_self (v : Value) :
    v.compare? v = if v.isNull || v.isIncomparable then none else some .eq := by
  cases v with
  | null => rfl
  | boolean b => cases b <;> rfl
  | int32 n => exact congrArg some (Std.ReflOrd.compare_self)
  | int64 n => exact congrArg some (Std.ReflOrd.compare_self)
  | double x => exact Binary64.compare?_self x
  | decimal d => exact congrArg some (Std.ReflOrd.compare_self)
  | string s => exact congrArg some (Std.ReflOrd.compare_self (α := String))
  | bytes bs => exact congrArg some (compareBytes_self bs)
  | date d => simp [compare?, Date.compare, isNull, isIncomparable]
  | time t => simp [compare?, Time.compare, isNull, isIncomparable]
  | timestamp t =>
    simp [compare?, Timestamp.compare, Date.compare, Time.compare, isNull, isIncomparable]
  | uuid u => exact congrArg some (Std.ReflOrd.compare_self)
  | array items => rfl

end Value

end Polysql

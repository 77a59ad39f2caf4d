import Mathlib.Algebra.Group.Int.Defs
import Polysql.Proofs.Evaluation.Bitwise
/-!
Arithmetic on integers is exact or fails. A sum, a difference and a product are there if they fit in
64 bits, and a quotient and a remainder if the divisor is not zero and the quotient fits, which only
that of the smallest integer by -1 does not (`fitsIn_tdiv_iff`). So integers of either width have
the result that the operation has without bounds (`ArithOp.onIntegers?_eq_some_iff`), in 32 bits
where both operands are and it fits (`Value.isInt32_ofInteger_iff`). NULL comes before every
failure. The same holds of the arithmetic of expressions (`Expr.eval_arith_exact`).
-/

namespace Polysql

/-! ### Ranges -/

/-- The number is one of a signed integer of some bits. -/
def FitsIn (bits : Nat) (k : Int) : Prop :=
  -2 ^ (bits - 1) ≤ k ∧ k < 2 ^ (bits - 1)

instance (bits : Nat) (k : Int) : Decidable (FitsIn bits k) :=
  inferInstanceAs (Decidable (_ ∧ _))

lemma fitsIn_toInt (m : Int64) : FitsIn 64 m.toInt :=
  ⟨m.le_toInt, m.toInt_lt⟩

/-- A number fits in 64 bits if it is that of a word. -/
lemma exists_toInt_eq_iff {k : Int} : (∃ m : Int64, m.toInt = k) ↔ FitsIn 64 k := by
  constructor
  · rintro ⟨m, rfl⟩
    exact fitsIn_toInt m
  · intro h
    exact ⟨.ofInt k, Int64.toInt_ofInt_of_le h.1 h.2⟩

/-! ### Division -/

/-- Division that truncates toward zero: what remains is smaller than the divisor, and it is on the
same side of zero as the number divided. -/
structure IsDivision (m n quotient remainder : Int) : Prop where
  eq_add : m = n * quotient + remainder
  small : remainder.natAbs < n.natAbs
  nonneg : 0 ≤ m → 0 ≤ remainder
  nonpos : m ≤ 0 → remainder ≤ 0

lemma isDivision_tdiv (m : Int) {n : Int} (hn : n ≠ 0) :
    IsDivision m n (m.tdiv n) (m.tmod n) where
  eq_add := (Int.mul_tdiv_add_tmod m n).symm
  small := by
    rw [Int.natAbs_tmod]
    exact Nat.mod_lt _ (by omega)
  nonneg := Int.tmod_nonneg n
  nonpos hm := by
    have hneg := Int.tmod_nonneg n (show 0 ≤ -m by omega)
    rw [Int.neg_tmod] at hneg
    omega

/-- A quotient by another number than zero fits, unless it is that of the smallest integer by -1. -/
lemma fitsIn_tdiv_iff {m n : Int} (hm : FitsIn 64 m) (hn : n ≠ 0) :
    FitsIn 64 (m.tdiv n) ↔ ¬(m = -2 ^ 63 ∧ n = -1) := by
  obtain ⟨hle, hlt⟩ : -2 ^ 63 ≤ m ∧ m < 2 ^ 63 := hm
  change -2 ^ 63 ≤ m.tdiv n ∧ m.tdiv n < 2 ^ 63 ↔ _
  by_cases hone : n = 1
  · subst hone
    rw [Int.tdiv_one]
    omega
  by_cases hneg : n = -1
  · subst hneg
    rw [Int.tdiv_neg, Int.tdiv_one]
    omega
  -- any other divisor at least halves the number
  · have hhalf : (m.tdiv n).natAbs ≤ m.natAbs / 2 := by
      rw [Int.natAbs_tdiv]
      exact Nat.div_le_div_left (by omega) (by decide)
    omega

/-- A remainder is no further from zero than the number divided, and on the same side of it. -/
lemma fitsIn_tmod {m n : Int} (hm : FitsIn 64 m) (hn : n ≠ 0) : FitsIn 64 (m.tmod n) := by
  obtain ⟨hle, hlt⟩ : -2 ^ 63 ≤ m ∧ m < 2 ^ 63 := hm
  have hdivision := isDivision_tdiv m hn
  have habs : (m.tmod n).natAbs ≤ m.natAbs := by
    rw [Int.natAbs_tmod]
    exact Nat.mod_le _ _
  change -2 ^ 63 ≤ m.tmod n ∧ m.tmod n < 2 ^ 63
  rcases Int.le_total 0 m with hpos | hneg
  · have := hdivision.nonneg hpos
    omega
  · have := hdivision.nonpos hneg
    omega

/-! ### Operations -/

namespace ArithOp

/-- The operation on integers without bounds. A quotient is truncated toward zero. -/
def exact : ArithOp → Int → Int → Int
  | add, m, n => m + n
  | sub, m, n => m - n
  | mul, m, n => m * n
  | div, m, n => m.tdiv n
  | mod, m, n => m.tmod n

/-- Two integers have a result: it fits in 64 bits, and there is no division by zero, nor of the
smallest integer by -1. -/
def Defined (op : ArithOp) (m n : Int) : Prop :=
  match op with
  | add | sub | mul => FitsIn 64 (op.exact m n)
  | div | mod => n ≠ 0 ∧ ¬(m = -2 ^ 63 ∧ n = -1)

/-- Words have the result of their numbers if there is one. -/
lemma onIntegers?_eq_some_iff {op : ArithOp} {a b k : Int64} :
    op.onIntegers? a b = some k ↔
      op.Defined a.toInt b.toInt ∧ k.toInt = op.exact a.toInt b.toInt := by
  have hfits (x : Int) : Int64.ofInt? x = some k ↔ FitsIn 64 x ∧ k.toInt = x := by
    rw [Int64.ofInt?_eq_some_iff, iff_and_self]
    rintro rfl
    exact fitsIn_toInt k
  have ha := fitsIn_toInt a
  -- sum, difference and product fit or not; the others ask for a divisor first
  cases op with
  | add | sub | mul => exact hfits _
  | div =>
    rw [onIntegers?, Defined, exact]
    split
    case isTrue hzero => simp [hzero]
    case isFalse hzero => rw [hfits, fitsIn_tdiv_iff ha hzero, and_iff_right hzero]
  | mod =>
    rw [onIntegers?, Defined, exact]
    split
    case isTrue hzero => simp [hzero]
    case isFalse hzero =>
      -- a remainder always fits, but the machine refuses it where the quotient does not
      have hmod := fitsIn_tmod ha hzero
      have hword : (Int64.ofInt (a.toInt.tmod b.toInt)).toInt = a.toInt.tmod b.toInt :=
        Int64.toInt_ofInt_of_le hmod.1 hmod.2
      rw [Option.map_eq_some_iff, and_iff_right hzero, ← fitsIn_tdiv_iff ha hzero,
        ← exists_toInt_eq_iff, ← Int64.toInt_inj]
      simp only [Int64.ofInt?_eq_some_iff, hword, exists_and_right, eq_comm (b := k.toInt)]

/-- What fits in 64 bits is the number of a word, and so is a remainder. -/
lemma exists_onIntegers?_iff {op : ArithOp} {a b : Int64} :
    (∃ k, op.onIntegers? a b = some k) ↔ op.Defined a.toInt b.toInt := by
  simp only [onIntegers?_eq_some_iff, exists_and_left, exists_toInt_eq_iff, and_iff_left_iff_imp]
  intro h
  have ha := fitsIn_toInt a
  cases op with
  | add | sub | mul => exact h
  | div => exact (fitsIn_tdiv_iff ha h.1).mpr h.2
  | mod => exact fitsIn_tmod ha h.1

end ArithOp

/-! ### Values -/

namespace Value

/-- The number that an integer of either width is. -/
def toInt? (v : Value) : Option Int :=
  v.toInt64?.map Int64.toInt

/-- The value is an integer of 32 bits. -/
def isInt32 : Value → Bool
  | int32 _ => true
  | _ => false

variable {v w r : Value} {m n : Int} {op : ArithOp}

lemma exists_ofInt?_iff {k : Int} : (∃ j, Int32.ofInt? k = some j) ↔ FitsIn 32 k := by
  have hrange : FitsIn 32 k ↔ Int32.minValue.toInt ≤ k ∧ k ≤ Int32.maxValue.toInt := by
    rw [Int32.toInt_minValue, Int32.toInt_maxValue]
    change -2 ^ 31 ≤ k ∧ k < 2 ^ 31 ↔ _
    omega
  rw [hrange, Int32.ofInt?]
  split <;> simp_all

/-- A result is of 32 bits exactly if both operands are and it fits. -/
lemma isInt32_ofInteger_iff (v w : Value) (k : Int64) :
    (ofInteger v w k).isInt32 = true ↔
      v.isInt32 = true ∧ w.isInt32 = true ∧ FitsIn 32 k.toInt := by
  rw [← exists_ofInt?_iff]
  cases v with
  | int32 x =>
    cases w with
    | int32 y =>
      rw [ofInteger.eq_def]
      cases Int32.ofInt? k.toInt <;> simp [isInt32]
    | _ => simp [ofInteger, isInt32]
  | _ => simp [ofInteger, isInt32]

/-- The result of two integers is that of words, in the width of the operands. -/
lemma arith_eq_ok_iff {a b : Int64} (hv : v.toInt64? = some a) (hw : w.toInt64? = some b) :
    v.arith op w = .ok r ↔ ∃ k, op.onIntegers? a b = some k ∧ ofInteger v w k = r := by
  rw [arith_integers op hv hw, orFail_eq_ok_iff, Option.map_eq_some_iff]

/-- NULL comes before every failure. -/
lemma arith_null (op : ArithOp) (h : v = null ∨ w = null) : v.arith op w = .ok null := by
  refine if_pos (Bool.or_eq_true_iff.mpr ?_)
  exact h.imp isNull_iff.mpr isNull_iff.mpr

/-- **Arithmetic on integers.** It succeeds exactly where a result is defined, with this result, in
32 bits where both operands are and it fits. -/
lemma arith_exact (op : ArithOp) (hv : v.toInt? = some m) (hw : w.toInt? = some n) :
    ((∃ r, v.arith op w = .ok r) ↔ op.Defined m n) ∧
      ∀ r, v.arith op w = .ok r → r.toInt? = some (op.exact m n) ∧
        (r.isInt32 = true ↔
          v.isInt32 = true ∧ w.isInt32 = true ∧ FitsIn 32 (op.exact m n)) := by
  obtain ⟨a, ha, rfl⟩ := Option.map_eq_some_iff.mp hv
  obtain ⟨b, hb, rfl⟩ := Option.map_eq_some_iff.mp hw
  simp only [arith_eq_ok_iff ha hb]
  constructor
  · rw [← ArithOp.exists_onIntegers?_iff]
    exact ⟨fun ⟨_, k, hk, _⟩ => ⟨k, hk⟩, fun ⟨k, hk⟩ => ⟨_, k, hk, rfl⟩⟩
  · rintro r ⟨k, hk, rfl⟩
    have hexact := (ArithOp.onIntegers?_eq_some_iff.mp hk).2
    rw [← hexact]
    exact ⟨congrArg (Option.map Int64.toInt) (toInt64?_ofInteger v w k),
      isInt32_ofInteger_iff v w k⟩

end Value

/-! ### Expressions -/

namespace Expr

variable {columns : Bindings} {a b : Expr} {v w : Value}

/-- A negative is a difference from zero. -/
lemma eval_neg (columns : Bindings) (a : Expr) :
    (neg a).eval columns = (arith .sub (number 0) a).eval columns := by
  rw [eval_arith]
  rfl

/-- **Arithmetic on integers is exact, or it fails.** Integers of either width have a sum, a
difference and a product exactly if it fits in 64 bits, and a quotient and a remainder exactly if
the divisor is not zero and they are not the smallest integer and -1. It is the result without
bounds, where a quotient is truncated toward zero and its remainder is on the side of the number
divided; and it has 32 bits exactly if both operands have and it fits, and 64 bits otherwise. If an
operand is NULL, so is the result, whatever the other operand is. A negative is a difference from
zero. -/
theorem eval_arith_exact (ha : a.eval columns = .ok v) (hb : b.eval columns = .ok w) :
    (∀ m n, v.toInt? = some m → w.toInt? = some n →
      (∀ op, ((∃ r, (arith op a b).eval columns = .ok r) ↔ op.Defined m n) ∧
        ∀ r, (arith op a b).eval columns = .ok r → r.toInt? = some (op.exact m n) ∧
          (r.isInt32 = true ↔
            v.isInt32 = true ∧ w.isInt32 = true ∧ FitsIn 32 (op.exact m n))) ∧
      (n ≠ 0 → IsDivision m n (ArithOp.div.exact m n) (ArithOp.mod.exact m n))) ∧
    (∀ op, v = .null ∨ w = .null → (arith op a b).eval columns = .ok .null) ∧
    (neg a).eval columns = (arith .sub (number 0) a).eval columns := by
  have heval (op : ArithOp) : (arith op a b).eval columns = v.arith op w := by
    rw [eval_arith, ha, hb]
    rfl
  refine ⟨fun m n hm hn => ⟨fun op => ?_, isDivision_tdiv m⟩, fun op hnull => ?_,
    eval_neg columns a⟩
  · rw [heval]
    exact Value.arith_exact op hm hn
  · rw [heval]
    exact Value.arith_null op hnull

/-- The smallest integer and -1, of different widths: neither a quotient nor a remainder, but a
difference. NULL by zero is NULL. -/
theorem eval_arith_exact_minValue :
    let a := literal (.int64 Int64.minValue)
    let b := literal (.int32 (-1))
    (¬∃ r, (arith .div a b).eval Bindings.none_ = .ok r) ∧
      (¬∃ r, (arith .mod a b).eval Bindings.none_ = .ok r) ∧
      (∃ r, (arith .sub a b).eval Bindings.none_ = .ok r ∧ r.toInt? = some (-9223372036854775807) ∧
        r.isInt32 = false) ∧
      (arith .div null (number 0)).eval Bindings.none_ = .ok .null := by
  intro a b
  obtain ⟨hintegers, -, -⟩ := eval_arith_exact
    (show a.eval Bindings.none_ = .ok (.int64 Int64.minValue) from rfl)
    (show b.eval Bindings.none_ = .ok (.int32 (-1)) from rfl)
  obtain ⟨hop, -⟩ := hintegers (-9223372036854775808) (-1) rfl rfl
  obtain ⟨-, hnull, -⟩ := eval_arith_exact
    (show null.eval Bindings.none_ = .ok .null from rfl)
    (show (number 0).eval Bindings.none_ = .ok (.int32 0) from rfl)
  have hundefined {op : ArithOp} (h : ¬ op.Defined (-9223372036854775808) (-1)) :
      ¬∃ r, (arith op a b).eval Bindings.none_ = .ok r := mt (hop op).1.mp h
  obtain ⟨r, hr⟩ := (hop .sub).1.mpr (show FitsIn 64 _ by decide)
  obtain ⟨hexact, hwidth⟩ := (hop .sub).2 r hr
  refine ⟨hundefined fun h => h.2 (by decide), hundefined fun h => h.2 (by decide),
    ⟨r, hr, hexact, ?_⟩, hnull .div (.inl rfl)⟩
  exact Bool.eq_false_iff.mpr fun h => nomatch (hwidth.mp h).1

end Expr

end Polysql

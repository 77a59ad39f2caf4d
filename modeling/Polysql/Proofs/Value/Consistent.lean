import Mathlib.Tactic.NormNum
import Polysql.Proofs.Value.Distinct
/-!
The comparison of values without doubles is one consistent order. Integers of either width and
decimals are numbers, and compare as the rational numbers that they are, whatever form they have
(`Value.compare?_numbers`). Values that can be compared with a third one can be compared with each
other (`Value.isSome_compare?_trans`), and the order is transitive where all of them compare. Turned
round, a comparison has the opposite outcome, and NULL has no place in the order at all
(`Value.compare?_consistent`).
-/

namespace Polysql

namespace Value

/-- The number that a value is, if it is an integer or a decimal. -/
def toRat? : Value → Option ℚ
  | int32 n => some n.toInt
  | int64 n => some n.toInt
  | decimal d => some d.toRat
  | _ => none

variable {a b c : Value}

/-! ### Numbers -/

lemma toRat_ofInt64 (n : Int64) : (Decimal.ofInt64 n).toRat = n.toInt := by
  rw [Decimal.toRat, Decimal.ofInt64, pow_zero, div_one]

/-- The decimal that takes the place of a number in comparisons is the same number. -/
lemma toRat?_eq_map_toDecimal? (v : Value) : v.toRat? = v.toDecimal?.map Decimal.toRat := by
  cases v with
  | int32 n => exact congrArg some (by rw [toRat_ofInt64, Int32.toInt_toInt64])
  | int64 n => exact congrArg some (toRat_ofInt64 n).symm
  | _ => rfl

lemma isDouble_eq_false_of_toRat? {x : ℚ} (h : a.toRat? = some x) : a.isDouble = false := by
  cases a with
  | double => cases h
  | _ => rfl

/-- Numbers of any form compare as the rational numbers that they are. -/
lemma compare?_numbers {x y : ℚ} (ha : a.toRat? = some x) (hb : b.toRat? = some y) :
    a.compare? b = some (Ord.compare x y) := by
  have ha' := isDouble_eq_false_of_toRat? ha
  have hb' := isDouble_eq_false_of_toRat? hb
  rw [toRat?_eq_map_toDecimal?] at ha hb
  obtain ⟨d, hd, rfl⟩ := Option.map_eq_some_iff.mp ha
  obtain ⟨e, he, rfl⟩ := Option.map_eq_some_iff.mp hb
  rw [← Decimal.compare_eq]
  exact (compare?_eq_some_iff ha' hb').mpr (.numbers hd he)

/-! ### Values that can be compared -/

/-- Values that can be compared with the same value can be compared with each other. -/
lemma isSome_compare?_trans (ha : a.isDouble = false) (hb : b.isDouble = false)
    (hc : c.isDouble = false) (hab : (a.compare? b).isSome) (hbc : (b.compare? c).isSome) :
    (a.compare? c).isSome := by
  obtain ⟨o, hab⟩ := Option.isSome_iff_exists.mp hab
  obtain ⟨p, hbc⟩ := Option.isSome_iff_exists.mp hbc
  obtain ⟨q, hac, -⟩ :=
    ((compare?_eq_some_iff ha hb).mp hab).trans ((compare?_eq_some_iff hb hc).mp hbc)
  rw [(compare?_eq_some_iff ha hc).mpr hac]
  rfl

/-- **A consistent order.** Turned round, a comparison of values has the opposite outcome, or none
like before. Of three values without doubles, if the second can be compared with the others, these
can be compared with each other; if the first is at most the second and the second at most the
third, the first is at most the third, and is equal to it exactly if it is equal to the second and
the second to the third. Integers and decimals compare as the numbers that they are, a value is
equal to itself unless it is NULL or an array, and NULL compares with nothing. -/
theorem compare?_consistent :
    (∀ a b : Value, a.compare? b = (b.compare? a).map Ordering.swap) ∧
    (∀ a b c : Value, a.isDouble = false → b.isDouble = false → c.isDouble = false →
      ((a.compare? b).isSome → (b.compare? c).isSome → (a.compare? c).isSome) ∧
      ∀ o p : Ordering, a.compare? b = some o → b.compare? c = some p → o.isLE → p.isLE →
        ∃ q, a.compare? c = some q ∧ q.isLE ∧ (q = .eq ↔ o = .eq ∧ p = .eq)) ∧
    (∀ (a b : Value) (x y : ℚ), a.toRat? = some x → b.toRat? = some y →
      a.compare? b = some (Ord.compare x y)) ∧
    (∀ a : Value, a.isDouble = false →
      a.compare? a = if a.isNull || a.isArray then none else some .eq) ∧
    ∀ a : Value, null.compare? a = none ∧ a.compare? null = none := by
  refine ⟨fun a b => compare?_swap b a, fun a b c ha hb hc => ⟨isSome_compare?_trans ha hb hc, ?_⟩,
    fun a b x y => compare?_numbers,
    fun a ha => by rw [compare?_self, isIncomparable_eq_isArray ha],
    fun a => ⟨compare?_null_left a, compare?_null_right a⟩⟩
  intro o p hab hbc ho hp
  exact ⟨o.then p, compare?_trans ha hb hc hab hbc ho hp, isLE_then ho hp, Ordering.then_eq_eq⟩

/-- An integer, a decimal with a place and an integer of the other width. -/
theorem compare?_consistent_numbers :
    let d : Decimal := ⟨15, 1, by decide, by decide⟩
    (int32 1).toRat? = some 1 ∧ (decimal d).toRat? = some (3 / 2) ∧
      (int32 1).compare? (decimal d) = some .lt ∧ (decimal d).compare? (int64 2) = some .lt ∧
      (int32 1).compare? (int64 2) = some .lt ∧
      (int64 2).compare? (int32 1) = some (Ordering.lt.swap) := by
  intro d
  obtain ⟨hswap, htrans, hnumbers, -⟩ := compare?_consistent
  have hone : (int32 1).toRat? = some 1 := by simp [toRat?]
  have hhalves : (decimal d).toRat? = some (3 / 2) :=
    congrArg some (show ((15 : ℤ) : ℚ) / 10 ^ 1 = 3 / 2 by norm_num)
  have hlt : (int32 1).compare? (decimal d) = some .lt :=
    (hnumbers _ _ _ _ hone hhalves).trans (congrArg some (compare_lt_iff_lt.mpr (by norm_num)))
  have hlt' : (decimal d).compare? (int64 2) = some .lt := by decide
  obtain ⟨q, hq, hle, heq⟩ := (htrans (int32 1) (decimal d) (int64 2) rfl rfl rfl).2 .lt .lt hlt
    hlt' rfl rfl
  have hq' : (int32 1).compare? (int64 2) = some .lt := by
    cases q with
    | lt => exact hq
    | eq => exact nomatch (heq.mp rfl).1
    | gt => cases hle
  exact ⟨hone, hhalves, hlt, hlt', hq', by rw [hswap, hq']; rfl⟩

end Value

end Polysql

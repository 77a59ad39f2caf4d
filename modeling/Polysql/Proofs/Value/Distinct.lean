import Polysql.Evaluation
import Polysql.Proofs.Value.Transitive
/-!
Values that are not distinct. Two values are not distinct if both are NULL or they are equal in the
order of values (`Value.notDistinct_iff`). Among values of which none is a double this is symmetric
and transitive, NULL is alone, and values that are equal as data are not distinct, but for arrays:
these have no place in the order, so that an array is distinct from every value, also from itself
(`Value.notDistinct_array`). Hence it is an equivalence exactly of the values that are no arrays
(`Value.notDistinct_equivalence_iff`).
-/

namespace Polysql

/-- Two doubles are equal in their order if they are equal as numbers. -/
lemma Binary64.compare?_eq_some_eq_iff {x y : Float} :
    Binary64.compare? x y = some .eq ↔ (x == y) = true := by
  rw [compare?_eq]
  change _ ↔ (x.toModel.unpack.compare y.toModel.unpack == some .eq) = true
  rw [beq_iff_eq]

namespace Value

/-- The value is an array. -/
def isArray : Value → Bool
  | array _ => true
  | _ => false

mutual

/-- The values are equal as data: they are of one kind, and so are their contents. Decimals are
equal as numbers, whatever their places, and so are doubles. -/
def same : Value → Value → Bool
  | null, null => true
  | boolean x, boolean y => x == y
  | int32 m, int32 n => m == n
  | int64 m, int64 n => m == n
  | double x, double y => x == y
  | decimal d, decimal e => d.compare e == .eq
  | string s, string t => s == t
  | bytes s, bytes t => s == t
  | date d, date e => d == e
  | time t, time u => t == u
  | timestamp t, timestamp u => t == u
  | uuid u, uuid v => u == v
  | array vs, array ws => sameAll vs ws
  | _, _ => false

/-- The values of two lists are equal as data, one after the other. -/
def sameAll : List Value → List Value → Bool
  | [], [] => true
  | v :: vs, w :: ws => v.same w && sameAll vs ws
  | _, _ => false

end

variable {u v w : Value}

/-! ### Equality in the order of values -/

lemma notDistinct_iff :
    v.notDistinct w = true ↔ v = null ∧ w = null ∨ v.compare? w = some .eq := by
  by_cases hv : v = null
  · subst hv
    rw [compare?_null_left]
    cases w <;> simp [notDistinct, isNull]
  · by_cases hw : w = null
    · subst hw
      rw [compare?_null_right]
      cases v <;> simp_all [notDistinct, isNull]
    · have hv' : v.isNull = false := Bool.eq_false_iff.mpr (mt isNull_iff.mp hv)
      have hw' : w.isNull = false := Bool.eq_false_iff.mpr (mt isNull_iff.mp hw)
      rw [notDistinct, hv', hw', equal?]
      cases v.compare? w <;> simp [hv]

lemma notDistinct_comm (v w : Value) : v.notDistinct w = w.notDistinct v := by
  rw [notDistinct, notDistinct, equal?_comm v w]
  cases v.isNull <;> cases w.isNull <;> rfl

lemma null_notDistinct_iff : null.notDistinct v = true ↔ v = null := by
  rw [notDistinct_iff, compare?_null_left]
  simp

lemma notDistinct_trans (hu : u.isDouble = false) (hv : v.isDouble = false)
    (hw : w.isDouble = false) (huv : u.notDistinct v = true) (hvw : v.notDistinct w = true) :
    u.notDistinct w = true := by
  rw [notDistinct_iff] at huv hvw ⊢
  obtain ⟨rfl, rfl⟩ | huv := huv
  · exact hvw
  · obtain ⟨rfl, rfl⟩ | hvw := hvw
    · exact .inr huv
    · exact .inr (compare?_trans hu hv hw huv hvw rfl rfl)

/-! ### Arrays -/

/-- An array is distinct from every value. -/
lemma notDistinct_array (vs : List Value) (w : Value) : (array vs).notDistinct w = false := by
  cases w <;> rfl

/-- A value is not distinct from itself, unless it is not comparable. -/
lemma notDistinct_self (v : Value) : v.notDistinct v = !v.isIncomparable := by
  rw [Bool.eq_iff_iff, notDistinct_iff, compare?_self]
  cases v with
  | double x => cases x.isNaN <;> simp [isNull, isIncomparable]
  | _ => simp [isNull, isIncomparable]

lemma isIncomparable_eq_isArray (h : v.isDouble = false) : v.isIncomparable = v.isArray := by
  cases v with
  | double x => cases h
  | _ => rfl

/-- Values that are equal as data are not distinct, unless they are arrays. -/
lemma notDistinct_of_same (h : v.same w = true) :
    v.notDistinct w = true ↔ v.isArray = false := by
  cases v with
  | array vs => simp [notDistinct_array, isArray]
  | double x =>
    cases w with
    | double y =>
      rw [same] at h
      simp only [isArray, iff_true]
      exact notDistinct_iff.mpr (.inr (Binary64.compare?_eq_some_eq_iff.mpr h))
    | _ => cases h
  | decimal d =>
    cases w with
    | decimal e =>
      rw [same, beq_iff_eq] at h
      simp only [isArray, iff_true]
      exact notDistinct_iff.mpr (.inr (congrArg some h))
    | _ => cases h
  | _ =>
    -- the other kinds are equal as data only if they are the same value
    cases w <;> simp only [same, beq_iff_eq, reduceCtorEq] at h
    try subst h
    simp [notDistinct_self, isIncomparable, isArray]

/-! ### The equivalence -/

/-- **Values that are not distinct.** Among values none of which is a double, not being distinct is
symmetric and transitive, and pairs NULL with NULL only. Values that are equal as data are not
distinct exactly if they are no arrays. So it is an equivalence if and only if none of the values is
an array. -/
theorem notDistinct_equivalence_iff {P : Value → Prop} (hP : ∀ v, P v → v.isDouble = false) :
    (∀ v w : Value, v.notDistinct w = w.notDistinct v) ∧
    (∀ u v w, P u → P v → P w →
      u.notDistinct v = true → v.notDistinct w = true → u.notDistinct w = true) ∧
    (∀ v : Value, null.notDistinct v = true ↔ v = null) ∧
    (∀ v w : Value, v.same w = true → (v.notDistinct w = true ↔ v.isArray = false)) ∧
    ((Equivalence fun v w : {v // P v} => v.1.notDistinct w.1 = true) ↔
      ∀ v, P v → v.isArray = false) := by
  have htrans (u v w : Value) (hu : P u) (hv : P v) (hw : P w) :
      u.notDistinct v = true → v.notDistinct w = true → u.notDistinct w = true :=
    notDistinct_trans (hP u hu) (hP v hv) (hP w hw)
  have hself (v : Value) (hv : P v) : v.notDistinct v = true ↔ v.isArray = false := by
    rw [notDistinct_self, isIncomparable_eq_isArray (hP v hv), Bool.not_eq_true']
  refine ⟨notDistinct_comm, htrans, fun v => null_notDistinct_iff,
    fun v w => notDistinct_of_same, ?_⟩
  constructor
  · intro h v hv
    exact (hself v hv).mp (h.refl ⟨v, hv⟩)
  · intro h
    exact
      { refl := fun v => (hself v.1 v.2).mpr (h v.1 v.2)
        symm := fun {v w} hvw => by rwa [notDistinct_comm w.1 v.1]
        trans := fun {u v w} => htrans u.1 v.1 w.1 u.2 v.2 w.2 }

/-- A number as an integer of either width and as a decimal with a place. -/
theorem notDistinct_equivalence_iff_number :
    let d : Decimal := ⟨10, 1, by decide, by decide⟩
    let e : Decimal := ⟨100, 2, by decide, by decide⟩
    let P (v : Value) : Prop := v = null ∨ v = int32 1 ∨ v = int64 1 ∨ v = decimal d
    (int32 1).notDistinct (decimal d) = true ∧ (decimal d).notDistinct (int64 1) = true ∧
      (int32 1).notDistinct (int64 1) = true ∧
      (decimal d).same (decimal e) = true ∧ (decimal d).notDistinct (decimal e) = true ∧
      Equivalence fun v w : {v // P v} => v.1.notDistinct w.1 = true := by
  intro d e P
  have hdoubles : ∀ v, P v → v.isDouble = false := by
    rintro v (rfl | rfl | rfl | rfl) <;> rfl
  obtain ⟨-, htrans, -, hsame, hequivalence⟩ := Value.notDistinct_equivalence_iff hdoubles
  refine ⟨by decide, by decide, ?_, by decide, ?_, ?_⟩
  · exact htrans (int32 1) (decimal d) (int64 1) (by simp [P]) (by simp [P]) (by simp [P])
      (by decide) (by decide)
  · exact (hsame (decimal d) (decimal e) (by decide)).mpr rfl
  · refine hequivalence.mpr ?_
    rintro v (rfl | rfl | rfl | rfl) <;> rfl

/-- An array of one integer is equal to itself as data, and distinct from itself. -/
theorem notDistinct_array_self :
    let v : Value := array [int32 1]
    v.isDouble = false ∧ v.same v = true ∧ v.notDistinct v = false ∧
      (Condition.isDistinct (.bind v) (.bind v) true).eval .none_ = .ok (some false) := by
  exact ⟨rfl, by decide, rfl, rfl⟩

end Value

end Polysql

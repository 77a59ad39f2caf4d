import Polysql.Evaluation
import Polysql.Proofs.Outcome
import Polysql.Proofs.Text.Numeral
import Polysql.Proofs.Value.Integer
/-!
Casts that change nothing further. What comes of a cast is of the kind that its type asks for, or it
is NULL, and such a value is its own cast to the type (`Value.conversion?_self`). An integer of
either width is written with its digits, and they are read again as the integer in 64 bits
(`Value.castInteger?_repr`). So a cast twice to one type is the cast once, and a cast of an integer
to a text and back gives the integer (`Value.cast_settles`).
-/

namespace Polysql

lemma DataType.eq_false_of_isInteger {type : DataType} (h : type.isInteger = true) :
    type.isString = false ∧ type.isFloat = false := by
  cases type with
  | tinyInt | smallInt | integer | bigInt => exact ⟨rfl, rfl⟩
  | _ => cases h

namespace Value

variable {v w : Value} {type : DataType}

/-! ### Conversions -/

/-- The conversion that a cast to a type asks for. -/
def conversion? (type : DataType) (v : Value) : Option Value :=
  if type.isString then v.castString?
  else if type.isFloat then v.castFloat?
  else if type.isInteger then v.castInteger?
  else if type.isBoolean then v.castBoolean?
  else none

lemma exists_of_castString? (h : v.castString? = some w) : ∃ s, w = string s := by
  cases v <;> cases h <;> exact ⟨_, rfl⟩

lemma exists_of_castFloat? (h : v.castFloat? = some w) : ∃ x, w = double x := by
  rw [castFloat?.eq_def] at h
  split at h <;> obtain ⟨x, -, rfl⟩ := Option.map_eq_some_iff.mp h <;> exact ⟨x, rfl⟩

lemma exists_of_castInteger? (h : v.castInteger? = some w) : ∃ n, w = int64 n := by
  rw [castInteger?.eq_def] at h
  split at h
  case h_2 x => exact ⟨_, (Option.some.inj h).symm⟩
  all_goals
    obtain ⟨n, -, rfl⟩ := Option.map_eq_some_iff.mp h
    exact ⟨n, rfl⟩

lemma null_or_exists_of_castBoolean? (h : v.castBoolean? = some w) :
    w = null ∨ ∃ b, w = boolean b := by
  rw [castBoolean?.eq_def] at h
  split at h
  case h_1 b => exact .inr ⟨b, (Option.some.inj h).symm⟩
  case h_2 s =>
    cases h
    rw [truthOfText]
    split_ifs
    · exact .inr ⟨_, rfl⟩
    · exact .inr ⟨_, rfl⟩
    · exact .inl rfl
  case h_3 =>
    obtain ⟨x, -, rfl⟩ := Option.map_eq_some_iff.mp h
    exact .inr ⟨_, rfl⟩

/-- What a conversion gives is NULL, or it is converted to itself. -/
lemma conversion?_self (h : v.conversion? type = some w) :
    w = null ∨ w.conversion? type = some w := by
  rw [conversion?] at h ⊢
  split_ifs at h ⊢
  · obtain ⟨s, rfl⟩ := exists_of_castString? h
    exact .inr rfl
  · obtain ⟨x, rfl⟩ := exists_of_castFloat? h
    exact .inr rfl
  · obtain ⟨n, rfl⟩ := exists_of_castInteger? h
    exact .inr rfl
  · obtain rfl | ⟨b, rfl⟩ := null_or_exists_of_castBoolean? h
    · exact .inl rfl
    · exact .inr rfl

/-- A cast leaves NULL, and converts what is not. -/
lemma cast_eq_ok_iff :
    v.cast type = .ok w ↔ v = null ∧ w = null ∨ v ≠ null ∧ v.conversion? type = some w := by
  rw [cast]
  by_cases hv : v = null
  · subst hv
    simp [isNull, eq_comm]
  · rw [if_neg (mt isNull_iff.mp hv)]
    simp only [hv, false_and, false_or, ne_eq, not_false_eq_true, true_and]
    exact orFail_eq_ok_iff

/-! ### Integers -/

/-- The text of an integer is made of its digits. -/
lemma castString?_integer {n : Int64} (h : v.toInt64? = some n) :
    v.castString? = some (string (Int.repr n.toInt)) := by
  cases v <;> cases h
  · rw [Int32.toInt_toInt64]
    rfl
  · rfl

/-- The digits of an integer are read as this integer. -/
lemma castInteger?_repr (n : Int64) :
    (string (Int.repr n.toInt)).castInteger? = some (int64 n) := by
  rw [castInteger?, trim_repr, integer?_repr, Option.bind_some, Int64.ofInt?_toInt, Option.map_some]

/-- An integer is written and read again. -/
lemma cast_cast_integer {n : Int64} {text number : DataType} (hv : v.toInt64? = some n)
    (htext : text.isString = true) (hnumber : number.isInteger = true) :
    ∃ w, v.cast text = .ok w ∧ w.cast number = .ok (int64 n) := by
  obtain ⟨hstring, hfloat⟩ := DataType.eq_false_of_isInteger hnumber
  have hne : v ≠ null := by
    rintro rfl
    cases hv
  refine ⟨string (Int.repr n.toInt), cast_eq_ok_iff.mpr (.inr ⟨hne, ?_⟩),
    cast_eq_ok_iff.mpr (.inr ⟨nofun, ?_⟩)⟩
  · rw [conversion?, if_pos htext, castString?_integer hv]
  · rw [conversion?, hstring, hfloat, hnumber]
    exact castInteger?_repr n

/-! ### Casts twice -/

/-- What comes of a cast is its own cast. -/
lemma cast_of_cast (h : v.cast type = .ok w) : w.cast type = .ok w := by
  obtain ⟨-, rfl⟩ | ⟨-, hw⟩ := cast_eq_ok_iff.mp h
  · rfl
  · by_cases hnull : w = null
    · subst hnull
      rfl
    · exact cast_eq_ok_iff.mpr (.inr ⟨hnull, (conversion?_self hw).resolve_left hnull⟩)

/-- **Casts settle.** What comes of the cast of a value to a type is its own cast to this type, so
an expression that is cast twice has the outcome of the first cast, and it fails if that does. An
integer of either width that is cast to a text of any type, and the text to any type of integers,
is the integer in 64 bits again. -/
theorem cast_settles :
    (∀ (v : Value) (type : DataType) (w : Value), v.cast type = .ok w → w.cast type = .ok w) ∧
    (∀ (v : Value) (n : Int64) (text number : DataType), v.toInt64? = some n →
      text.isString = true → number.isInteger = true →
      ∃ w, v.cast text = .ok w ∧ w.cast number = .ok (int64 n)) ∧
    ∀ (columns : Bindings) (e : Expr) (type : DataType),
      (Expr.cast (.cast e type) type).eval columns = (Expr.cast e type).eval columns := by
  refine ⟨fun v type w => cast_of_cast, fun v n text number => cast_cast_integer, ?_⟩
  intro columns e type
  change (e.eval columns >>= (cast · type) >>= (cast · type)) = e.eval columns >>= (cast · type)
  cases e.eval columns with
  | error cause => rfl
  | ok v =>
    rw [ok_bind]
    cases hv : v.cast type with
    | error cause => rfl
    | ok w => exact cast_of_cast hv

/-- The smallest integer is written with its sign and read again. The number of a text stays as it
is, whatever was written around it. -/
theorem cast_settles_minValue :
    (∃ w, (int64 Int64.minValue).cast (.varChar none) = .ok w ∧
      w.cast .tinyInt = .ok (int64 Int64.minValue)) ∧
    (string " +007 ").cast .bigInt = .ok (int64 7) ∧ (int64 7).cast .bigInt = .ok (int64 7) := by
  obtain ⟨hself, hback, -⟩ := cast_settles
  have hread : (string " +007 ").cast .bigInt = .ok (int64 7) := by rfl
  exact ⟨hback _ _ _ _ rfl rfl rfl, hread, hself _ _ _ hread⟩

end Value

end Polysql

import Polysql.Evaluation.Arithmetic
import Polysql.Proofs.Value.Order
/-!
Integers of 64 bits, and the operations on values that are integers of either width.

Of two words `m` and `n`, the word `m &&& n` has no bit that `m ||| n` has not. So their difference
is in range, and it is the exclusive or (`Int64.toInt_or_sub_and`). The complement of a word is its
negative less one (`Int64.toInt_complement`), where the smallest word is the only one without a
negative (`Int64.ofInt?_neg_eq_none_iff`).

On values this makes the exclusive or by arithmetic exact (`Value.bitXor_integers`), and the
complement by arithmetic exact but for the smallest integer, for which it fails
(`Value.bitNot_integer`, `Value.bitNot_minValue`).
-/

namespace Polysql

/-! ### Words -/

/-- The bits of either word are those of just one of them and those of both. -/
lemma toInt_or_eq_xor_add_and {w : Nat} (x y : BitVec w) :
    (x ||| y).toInt = (x ^^^ y).toInt + (x &&& y).toInt := by
  have hdisjoint : (x ^^^ y) &&& (x &&& y) = 0#w := by
    ext i
    simp only [BitVec.getElem_and, BitVec.getElem_xor, BitVec.getElem_zero]
    cases x[i] <;> cases y[i] <;> rfl
  have hjoined : (x ^^^ y) ||| (x &&& y) = x ||| y := by
    ext i
    simp only [BitVec.getElem_and, BitVec.getElem_or, BitVec.getElem_xor]
    cases x[i] <;> cases y[i] <;> rfl
  have hsum : (x ||| y).toNat = (x ^^^ y).toNat + (x &&& y).toNat := by
    rw [← BitVec.toNat_add_of_and_eq_zero hdisjoint, BitVec.add_eq_or_of_and_eq_zero _ _ hdisjoint,
      hjoined]
  rw [BitVec.toInt_eq_msb_cond, BitVec.toInt_eq_msb_cond, BitVec.toInt_eq_msb_cond,
    BitVec.msb_or, BitVec.msb_xor, BitVec.msb_and, hsum]
  -- the sign bit counts negatively, on both sides as often
  cases x.msb <;> cases y.msb <;> simp <;> omega

namespace Int64

lemma toInt_or_sub_and (m n : Int64) : (m ||| n).toInt - (m &&& n).toInt = (m ^^^ n).toInt :=
  Int.sub_eq_iff_eq_add.mpr (toInt_or_eq_xor_add_and m.toBitVec n.toBitVec)

lemma toInt_complement (m : Int64) : (~~~m).toInt = -m.toInt - 1 := by
  have hle := m.le_toInt
  have hlt := m.toInt_lt
  rw [Int64.toInt_not, Int.bmod_eq_of_le] <;> omega

lemma ofInt?_eq_some_iff {k : Int} {m : Int64} : ofInt? k = some m ↔ m.toInt = k := by
  rw [ofInt?]
  split
  case isTrue h =>
    rw [Option.some.injEq]
    constructor
    · rintro rfl
      rw [← Int64.ofIntLE_eq_ofInt h.1 h.2, Int64.toInt_ofIntLE]
    · rintro rfl
      exact Int64.ofInt_toInt m
  case isFalse h =>
    refine ⟨nofun, ?_⟩
    rintro rfl
    exact absurd ⟨m.minValue_le_toInt, m.toInt_le⟩ h

@[simp] lemma ofInt?_toInt (m : Int64) : ofInt? m.toInt = some m :=
  ofInt?_eq_some_iff.mpr rfl

lemma ofInt?_neg_eq_none_iff {m : Int64} : ofInt? (-m.toInt) = none ↔ m = Int64.minValue := by
  have hle := m.le_toInt
  have hlt := m.toInt_lt
  rw [ofInt?, ← Int64.toInt_inj, Int64.toInt_minValue, Int64.toInt_maxValue]
  split <;> simp only [reduceCtorEq, false_iff, true_iff] <;> omega

end Int64

/-! ### Integer values -/

namespace Value

variable {v w : Value} {m n : Int64}

lemma isNull_eq_false_of_integer (hv : v.toInt64? = some m) : v.isNull = false := by
  cases v <;> first | rfl | cases hv

lemma orFail_eq_ok_iff {message : String} {v? : Option Value} :
    orFail message v? = .ok v ↔ v? = some v := by
  cases v? <;> simp [orFail]

lemma toInt64?_ofInteger (v w : Value) (m : Int64) : (ofInteger v w m).toInt64? = some m := by
  rw [ofInteger.eq_def]
  split
  case h_1 k hk =>
    rw [Int32.ofInt?] at hk
    split at hk
    case isTrue h =>
      obtain rfl := Option.some.inj hk
      rw [toInt64?, Int32.toInt64_ofInt h.1 h.2, Int64.ofInt_toInt]
    case isFalse => cases hk
  case h_2 => rfl

/-- Arithmetic on integers is that of words, and keeps the width of its operands if it can. -/
lemma arith_integers (op : ArithOp) (hv : v.toInt64? = some m) (hw : w.toInt64? = some n) :
    v.arith op w =
      orFail "integer overflow or division by zero" ((op.onIntegers? m n).map (ofInteger v w)) := by
  have hreached : v.arith op w = orFail "integer overflow or division by zero" (do
      return ofInteger v w (← op.onIntegers? (← v.toInt64?) (← w.toInt64?))) := by
    cases v <;> cases hv <;> cases w <;> cases hw <;> rfl
  rw [hreached, hv, hw]
  change orFail _ (op.onIntegers? m n >>= fun k => some (ofInteger v w k)) = _
  cases op.onIntegers? m n <;> rfl

lemma bitwise_integers (op : Int64 → Int64 → Int64) (hv : v.toInt64? = some m)
    (hw : w.toInt64? = some n) : bitwise op v w = .ok (int64 (op m n)) := by
  rw [bitwise, isNull_eq_false_of_integer hv, isNull_eq_false_of_integer hw, hv, hw]
  rfl

/-- The exclusive or by arithmetic is that of words, and never overflows. -/
lemma bitXor_integers (hv : v.toInt64? = some m) (hw : w.toInt64? = some n) :
    bitXor v w = .ok (int64 (m ^^^ n)) := by
  have hsub : ArithOp.sub.onIntegers? (m ||| n) (m &&& n) = some (m ^^^ n) := by
    rw [ArithOp.onIntegers?, Int64.toInt_or_sub_and, Int64.ofInt?_toInt]
  rw [bitXor, bitOr, bitAnd, bitwise_integers _ hv hw, bitwise_integers _ hv hw]
  change arith .sub (int64 (m ||| n)) (int64 (m &&& n)) = _
  rw [arith_integers .sub rfl rfl, hsub]
  rfl

/-- The negative of an integer, which is missing for the smallest one. -/
lemma negate_integer (hv : v.toInt64? = some m) :
    v.negate = orFail "integer overflow or division by zero"
      ((Int64.ofInt? (-m.toInt)).map (ofInteger (int32 0) v)) := by
  have hsub : ArithOp.sub.onIntegers? 0 m = Int64.ofInt? (-m.toInt) := by
    rw [ArithOp.onIntegers?, Int64.toInt_zero, Int.zero_sub]
  rw [negate, arith_integers .sub rfl hv]
  exact congrArg (fun k? => orFail _ (Option.map _ k?)) hsub

/-- The complement by arithmetic is that of words for every integer but the smallest. -/
lemma bitNot_integer (hv : v.toInt64? = some m) (hm : m ≠ Int64.minValue) :
    ∃ r, v.bitNot = .ok r ∧ r.toInt64? = some (~~~m) := by
  obtain ⟨k, hk⟩ := Option.ne_none_iff_exists'.mp (mt Int64.ofInt?_neg_eq_none_iff.mp hm)
  have hsub : ArithOp.sub.onIntegers? k 1 = some (~~~m) := by
    rw [ArithOp.onIntegers?, Int64.ofInt?_eq_some_iff.mp hk, Int64.toInt_one,
      ← Int64.toInt_complement, Int64.ofInt?_toInt]
  refine ⟨ofInteger (ofInteger (int32 0) v k) (int32 1) (~~~m), ?_, toInt64?_ofInteger _ _ _⟩
  rw [bitNot, negate_integer hv, hk]
  change arith .sub (ofInteger (int32 0) v k) (int32 1) = _
  rw [arith_integers .sub (toInt64?_ofInteger _ _ k) rfl]
  exact congrArg (fun k? => orFail _ (Option.map _ k?)) hsub

/-- The complement by arithmetic fails for the smallest integer, whose negative it takes first. -/
lemma bitNot_minValue (hv : v.toInt64? = some Int64.minValue) :
    v.bitNot = .error (.evaluation "integer overflow or division by zero") := by
  rw [bitNot, negate_integer hv, Int64.ofInt?_neg_eq_none_iff.mpr rfl]
  rfl

/-! ### NULL -/

lemma bitwise_null (op : Int64 → Int64 → Int64) (h : v = null ∨ w = null) :
    bitwise op v w = .ok null := by
  refine if_pos (Bool.or_eq_true_iff.mpr ?_)
  exact h.imp isNull_iff.mpr isNull_iff.mpr

lemma bitXor_null (h : v = null ∨ w = null) : bitXor v w = .ok null := by
  rw [bitXor, bitOr, bitAnd, bitwise_null _ h, bitwise_null _ h]
  rfl

end Value

/-! ### Complements -/

/-- What an operation of two operands complements. -/
def BitOp.complemented? : BitOp → Option (Int64 → Int64 → Int64)
  | nand => some (· &&& ·)
  | nor => some (· ||| ·)
  | xnor => some (· ^^^ ·)
  | _ => none

namespace Value

variable {v w : Value} {m n : Int64} {op : BitOp} {f : Int64 → Int64 → Int64}

lemma bit_integers (hop : op.complemented? = some f) (hv : v.toInt64? = some m)
    (hw : w.toInt64? = some n) : v.bit op w = (int64 (f m n)).bitNot := by
  cases op <;> cases hop
  · exact congrArg (· >>= bitNot) (bitwise_integers (· &&& ·) hv hw)
  · exact congrArg (· >>= bitNot) (bitwise_integers (· ||| ·) hv hw)
  · exact congrArg (· >>= bitNot) (bitXor_integers hv hw)

lemma bit_null (hop : op.complemented? = some f) (h : v = null ∨ w = null) :
    v.bit op w = .ok null := by
  cases op <;> cases hop
  · exact congrArg (· >>= bitNot) (bitwise_null (· &&& ·) h)
  · exact congrArg (· >>= bitNot) (bitwise_null (· ||| ·) h)
  · exact congrArg (· >>= bitNot) (bitXor_null h)

end Value

end Polysql

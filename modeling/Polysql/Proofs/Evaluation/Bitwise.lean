import Polysql.Proofs.Evaluation.Detour
import Polysql.Proofs.Value.Integer
/-!
The detours of bitwise operations, evaluated. What is spelled out by `&`, `|` and arithmetic has the
value of the operation, and fails where it does (`Expr.eval_of_expandBit`). On integers, the
exclusive or is exact for all operands (`Expr.eval_exclusiveOr_exact`), and so is a complement
unless the word it complements is the smallest one: that one has no negative, so the first of the
two steps of the complement overflows (`Expr.eval_complement_iff`).
-/

namespace Polysql

namespace Expr

section

variable (columns : Bindings)

lemma eval_arith (op : ArithOp) (a b : Expr) :
    (arith op a b).eval columns = (do
      let v ← a.eval columns
      let w ← b.eval columns
      v.arith op w) :=
  rfl

lemma eval_bit_not (a : Expr) (b? : Option Expr) :
    (bit .not a b?).eval columns = a.eval columns >>= Value.bitNot :=
  rfl

/-- An operation on two operands, of which a missing one counts as NULL. -/
lemma eval_bit (op : BitOp) (hop : op ≠ .not) (a : Expr) (b? : Option Expr) :
    (bit op a b?).eval columns = (do
      let v ← a.eval columns
      let w ← (b?.getD null).eval columns
      Value.bit op v w) := by
  cases op <;> first | exact absurd rfl hop | cases b? <;> rfl

lemma eval_complement (e : Expr) :
    (complement e).eval columns = e.eval columns >>= Value.bitNot := by
  rw [complement, eval_arith]
  change (do (← (do (← e.eval columns).negate)).arith .sub (.int32 1)) = _
  cases e.eval columns <;> rfl

lemma eval_exclusiveOr (a b : Expr) :
    (exclusiveOr a b).eval columns = (do
      let v ← a.eval columns
      let w ← b.eval columns
      Value.bitXor v w) := by
  rw [exclusiveOr, eval_arith]
  change (do
    let v ← (do (← a.eval columns).bitOr (← b.eval columns))
    let w ← (do (← a.eval columns).bitAnd (← b.eval columns))
    v.arith .sub w) = _
  cases a.eval columns with
  | error e => rfl
  | ok v => cases b.eval columns <;> rfl

lemma eval_powerOfTwo (b : Expr) :
    (callOf .power [number 2, b]).eval columns = b.eval columns >>= Value.power (.int32 2) := by
  change (do Func.power.apply (← collect (evalEach columns [number 2, b]))) = _
  rw [evalEach_cons, collect_cons, evalEach_cons, collect_cons, eval_number]
  cases b.eval columns with
  | error e => rfl
  | ok v => cases v <;> rfl

/-- **Detours of bitwise operations are exact.** -/
theorem eval_of_expandBit {op : BitOp} {a e : Expr} {b? : Option Expr}
    (he : expandBit op a b? = some e) : e.eval columns = (bit op a b?).eval columns := by
  -- no detour asks for NULL or an error in another order than the operation itself
  cases op with
  | and | or => cases he
  | not =>
    cases he
    rw [eval_complement, eval_bit_not]
  | xor =>
    cases he
    rw [eval_exclusiveOr, eval_bit columns .xor nofun]
    rfl
  | nand =>
    cases he
    rw [eval_complement, eval_bit columns .and nofun, eval_bit columns .nand nofun,
      Option.getD_some]
    cases a.eval columns <;> cases (b?.getD null).eval columns <;> rfl
  | nor =>
    cases he
    rw [eval_complement, eval_bit columns .or nofun, eval_bit columns .nor nofun,
      Option.getD_some]
    cases a.eval columns <;> cases (b?.getD null).eval columns <;> rfl
  | xnor =>
    cases he
    rw [eval_complement, eval_exclusiveOr, eval_bit columns .xnor nofun]
    cases a.eval columns <;> cases (b?.getD null).eval columns <;> rfl
  | shiftLeft =>
    cases he
    rw [eval_arith, eval_powerOfTwo, eval_bit columns .shiftLeft nofun]
    cases a.eval columns <;> cases (b?.getD null).eval columns <;> rfl
  | shiftRight =>
    cases he
    rw [eval_arith, eval_powerOfTwo, eval_bit columns .shiftRight nofun]
    cases a.eval columns <;> cases (b?.getD null).eval columns <;> rfl

/-! ### Integers -/

variable {a b : Expr} {v w : Value}

/-- The detour of an operation of two operands, by their values. -/
lemma eval_expandBit (op : BitOp) (hop : op ≠ .not) {e : Expr}
    (he : expandBit op a (some b) = some e) (ha : a.eval columns = .ok v)
    (hb : b.eval columns = .ok w) : e.eval columns = v.bit op w := by
  rw [eval_of_expandBit columns he, eval_bit columns op hop, ha, Option.getD_some, hb]
  rfl

/-- **Exclusive or by arithmetic.** The difference `(a | b) - (a & b)` of two integers of any width
is their exclusive or in 64 bits, which no operands make overflow; if an operand is NULL, so is the
difference. -/
theorem eval_exclusiveOr_exact (ha : a.eval columns = .ok v) (hb : b.eval columns = .ok w) :
    ∃ e, expandBit .xor a (some b) = some e ∧
      e.eval columns = (bit .xor a (some b)).eval columns ∧
      (∀ m n, v.toInt64? = some m → w.toInt64? = some n →
        e.eval columns = .ok (.int64 (m ^^^ n))) ∧
      (v = .null ∨ w = .null → e.eval columns = .ok .null) := by
  have heval := eval_expandBit columns .xor nofun rfl ha hb
  refine ⟨exclusiveOr a b, rfl, eval_of_expandBit columns rfl, fun m n hm hn => ?_, fun hnull => ?_⟩
  · exact heval.trans (Value.bitXor_integers hm hn)
  · exact heval.trans (Value.bitXor_null hnull)

end

/-- The smallest integer of 32 bits with the largest one of 64. -/
theorem eval_exclusiveOr_extremes :
    let a := literal (.int32 Int32.minValue)
    let b := literal (.int64 Int64.maxValue)
    ∃ e, expandBit .xor a (some b) = some e ∧
      e.eval Bindings.none_ = .ok (.int64 (-9223372034707292161)) := by
  obtain ⟨e, he, -, hxor, -⟩ := eval_exclusiveOr_exact Bindings.none_
    (show (literal (.int32 Int32.minValue)).eval _ = .ok _ from rfl)
    (show (literal (.int64 Int64.maxValue)).eval _ = .ok _ from rfl)
  exact ⟨e, he, hxor _ _ rfl rfl⟩

end Expr

/-! ### Complements -/

/-- The outcome of an evaluation is the complement of an integer in 64 bits. -/
def Outcome.IsComplement (o : Outcome) (m : Int64) : Prop :=
  ∃ r, o = .ok r ∧ r.toInt64? = some (~~~m)

/-- An integer has its complement by arithmetic unless it is the smallest one. -/
lemma Value.isComplement_bitNot_iff {v : Value} {m : Int64} (hv : v.toInt64? = some m) :
    Outcome.IsComplement v.bitNot m ↔ m ≠ Int64.minValue := by
  refine ⟨?_, bitNot_integer hv⟩
  rintro ⟨r, hr, -⟩ rfl
  rw [bitNot_minValue hv] at hr
  cases hr

namespace Expr

/-- **Complements by arithmetic.** `NOT a`, `a NAND b`, `a NOR b` and `a XNOR b`, spelled out as
`-x - 1`, have the complement of `x` in 64 bits for integers of any width if and only if `x` is not
the smallest integer. If an operand is NULL, so is the outcome. -/
theorem eval_complement_iff (columns : Bindings) {a : Expr} {v : Value}
    (ha : a.eval columns = .ok v) :
    (∃ e, expandBit .not a none = some e ∧
      (∀ m, v.toInt64? = some m →
        ((e.eval columns).IsComplement m ↔ m ≠ Int64.minValue)) ∧
      (v = .null → e.eval columns = .ok .null)) ∧
    ∀ op f, BitOp.complemented? op = some f → ∀ b w, b.eval columns = .ok w →
      ∃ e, expandBit op a (some b) = some e ∧
        (∀ m n, v.toInt64? = some m → w.toInt64? = some n →
          ((e.eval columns).IsComplement (f m n) ↔ f m n ≠ Int64.minValue)) ∧
        (v = .null ∨ w = .null → e.eval columns = .ok .null) := by
  constructor
  · have heval : (complement a).eval columns = v.bitNot := by rw [eval_complement, ha]; rfl
    refine ⟨complement a, rfl, fun m hm => ?_, ?_⟩
    · rw [heval]
      exact Value.isComplement_bitNot_iff hm
    · rintro rfl
      exact heval
  · intro op f hop b w hb
    obtain ⟨e, he⟩ : ∃ e, expandBit op a (some b) = some e := by
      cases op <;> first | exact ⟨_, rfl⟩ | cases hop
    have heval := eval_expandBit columns op (by rintro rfl; cases hop) he ha hb
    refine ⟨e, he, fun m n hm hn => ?_, fun hnull => ?_⟩
    · rw [heval, Value.bit_integers hop hm hn]
      exact Value.isComplement_bitNot_iff rfl
    · exact heval.trans (Value.bit_null hop hnull)

/-- The exclusive or of the largest integer and -1 is the smallest one, so it has no complement by
arithmetic; the conjunction of the two has one. -/
theorem eval_complement_iff_maxValue :
    let a := literal (.int64 Int64.maxValue)
    let b := literal (.int32 (-1))
    (∃ e, expandBit .nand a (some b) = some e ∧
      (e.eval Bindings.none_).IsComplement Int64.maxValue) ∧
    ∃ e, expandBit .xnor a (some b) = some e ∧
      ¬ (e.eval Bindings.none_).IsComplement Int64.minValue := by
  obtain ⟨-, hbinary⟩ := eval_complement_iff Bindings.none_
    (show (literal (.int64 Int64.maxValue)).eval _ = .ok _ from rfl)
  obtain ⟨e, he, hnand, -⟩ := hbinary .nand _ rfl (literal (.int32 (-1))) _ rfl
  obtain ⟨d, hd, hxnor, -⟩ := hbinary .xnor _ rfl (literal (.int32 (-1))) _ rfl
  exact ⟨⟨e, he, (hnand _ _ rfl rfl).mpr (by decide)⟩,
    ⟨d, hd, fun h => (hxnor _ _ rfl rfl).mp h (by decide)⟩⟩

/-- The smallest integer has the complement `9223372036854775807`, and its detour overflows. -/
theorem eval_complement_minValue :
    let a := literal (.int64 Int64.minValue)
    a.eval Bindings.none_ = .ok (.int64 Int64.minValue) ∧ ~~~Int64.minValue = 9223372036854775807 ∧
      ∃ e, expandBit .not a none = some e ∧
        e.eval Bindings.none_ = .error (.evaluation "integer overflow or division by zero") ∧
        ¬ (e.eval Bindings.none_).IsComplement Int64.minValue := by
  have hfailed : (complement (literal (.int64 Int64.minValue))).eval Bindings.none_ =
      .error (.evaluation "integer overflow or division by zero") := by rfl
  exact ⟨rfl, rfl, _, rfl, hfailed, fun ⟨r, hr, _⟩ => nomatch hfailed.symm.trans hr⟩

end Expr

end Polysql

import Polysql.Proofs.Reading.Rank
import Polysql.Query.Expansion
/-!
The ranks of the detours of expressions, of calls, and of the conditions that are spelled out by
expressions or queries. Each is lower than the rank of what is spelled out
(`Expr.rank_of_expandBit`, `Call.rank_of_expandFilter` and their kin), so the writers of a level can
leave the detour to the level below.
-/

namespace Polysql

/-! ### Expressions -/

lemma rankOfOption_none : rankOfOption none = 1 := rfl

lemma rankOfOption_some (e : Expr) : rankOfOption (some e) = e.rank := rfl

namespace Expr

@[simp] lemma rank_constant (c : Constant) : (constant c).rank = 1 := rfl

@[simp] lemma rank_literal (v : Value) : (literal v).rank = 1 := rfl

@[simp] lemma rank_number (n : Nat) : (number n).rank = 1 := rfl

@[simp] lemma rank_null : null.rank = 1 := rfl

@[simp] lemma rank_truth (b : Bool) : (truth b).rank = 1 := rfl

@[simp] lemma rank_column (n : Name) : (column n).rank = 1 := rfl

lemma rank_arith (op : ArithOp) (a b : Expr) : (arith op a b).rank = 1 + max a.rank b.rank := rfl

lemma rank_neg (e : Expr) : (neg e).rank = 1 + e.rank := rfl

lemma rank_bit (op : BitOp) (a : Expr) (b? : Option Expr) :
    (bit op a b?).rank = op.height + max a.rank (rankOfOption b?) := rfl

lemma rank_caseWhen (branches : List (Condition × Expr)) (otherwise? : Option Expr) :
    (caseWhen branches otherwise?).rank =
      1 + max (rankOfBranches branches) (rankOfOption otherwise?) := rfl

lemma rank_call (c : Call) : (call c).rank = 1 + c.rank := rfl

lemma rank_caseOf (operand : Expr) (branches : List (Expr × Expr)) (otherwise? : Option Expr) :
    (caseOf operand branches otherwise?).rank =
      1 + max operand.rank (max (rankOfCases branches) (rankOfOption otherwise?)) := rfl

lemma rank_cast (e : Expr) (type : DataType) : (cast e type).rank = 5 + e.rank := rfl

lemma rank_condition (c : Condition) : (condition c).rank = 3 + c.rank := rfl

lemma rank_subquery (q : Select) : (subquery q).rank = 1 + q.rank := rfl

lemma rank_callOf (f : Func) (args : List Expr) :
    (callOf f args).rank = 1 + (f.height args.length + max (rankOfExprs args) 1) := rfl

lemma rank_lt_bit {op : BitOp} {a : Expr} {b? : Option Expr} {e : Expr}
    (h : e ∈ a :: b?.toList) : e.rank < (bit op a b?).rank := by
  have : 1 ≤ op.height := by cases op <;> decide
  rw [rank_bit]
  rcases List.mem_cons.mp h with rfl | h
  · omega
  · rw [Option.mem_toList.mp h, rankOfOption_some]
    omega

lemma one_le_rank (e : Expr) : 1 ≤ e.rank := by
  cases e with
  | bit op a b? => cases op <;> exact Nat.le_trans (by decide) (Nat.le_add_right _ _)
  | constant | field | asterisk | sequence | columnDefault => exact Nat.le_refl 1
  | _ => exact Nat.le_trans (by decide) (Nat.le_add_right _ _)

end Expr

lemma rankOfBranches_cons (c : Condition) (e : Expr) (bs : List (Condition × Expr)) :
    rankOfBranches ((c, e) :: bs) = max c.rank (max e.rank (rankOfBranches bs)) := rfl

lemma rankOfBranches_nil : rankOfBranches [] = 1 := rfl

lemma rankOfFilter_none : rankOfFilter none = 1 := rfl

lemma rankOfFilter_some (c : Condition) : rankOfFilter (some c) = c.rank := rfl

namespace Expr

lemma rank_complement (e : Expr) : (complement e).rank ≤ 2 + e.rank := by
  have := e.one_le_rank
  rw [complement, rank_arith, rank_neg, rank_number]
  omega

lemma rank_exclusiveOr (a b : Expr) : (exclusiveOr a b).rank = 2 + max a.rank b.rank := by
  rw [exclusiveOr, rank_arith, rank_bit, rank_bit]
  simp only [BitOp.height, rankOfOption_some]
  omega

/-- An operand that is missing counts as NULL. -/
lemma rank_getD_null (b? : Option Expr) : (b?.getD null).rank = rankOfOption b? := by
  cases b? <;> rfl

lemma rank_powerOfTwo (b : Expr) : (callOf .power [number 2, b]).rank ≤ 7 + b.rank := by
  have := b.one_le_rank
  rw [rank_callOf]
  simp only [Func.height, rankOfExprs_cons, rankOfExprs_nil, rank_number]
  omega

/-- A derived bitwise operation goes down in rank. -/
lemma rank_of_expandBit {op : BitOp} {a : Expr} {b? : Option Expr} {e : Expr}
    (h : expandBit op a b? = some e) : e.rank < (bit op a b?).rank := by
  have hb := rank_getD_null b?
  have hpower := rank_powerOfTwo (b?.getD null)
  cases op with
  | and | or => cases h
  | xor =>
    cases h
    rw [rank_exclusiveOr, rank_bit, hb, BitOp.height]
    omega
  | not =>
    cases h
    have := rank_complement a
    rw [rank_bit, BitOp.height]
    omega
  | nand | nor =>
    cases h
    refine Nat.lt_of_le_of_lt (rank_complement _) ?_
    rw [rank_bit, rank_bit, BitOp.height, BitOp.height, rankOfOption_some, hb]
    omega
  | xnor =>
    cases h
    refine Nat.lt_of_le_of_lt (rank_complement _) ?_
    rw [rank_exclusiveOr, rank_bit, hb, BitOp.height]
    omega
  | shiftLeft | shiftRight =>
    cases h
    rw [rank_arith, rank_bit, BitOp.height]
    omega

/-- The rank of nested cases grows with the number of the expressions only. -/
lemma rank_bestOf_le (op : CompareOp) {k : Nat} : ∀ {best : Expr} {es : List Expr},
    best.rank ≤ k → rankOfExprs es ≤ k → (bestOf op best es).rank ≤ es.length + 1 + k
  | best, [], hbest, _ => by
    rw [bestOf]
    omega
  | best, e :: es, hbest, hes => by
    rw [rankOfExprs_cons] at hes
    have hstay := rank_bestOf_le op hbest (show rankOfExprs es ≤ k by omega)
    have hmove := rank_bestOf_le op (show e.rank ≤ k by omega) (show rankOfExprs es ≤ k by omega)
    have hcompare := Condition.rank_compare best op e
    rw [bestOf, rank_caseWhen, rankOfBranches_cons, rankOfBranches_nil, rankOfOption_some,
      List.length_cons]
    omega

lemma rank_numberAsTruth (e : Expr) (type : DataType) :
    e.numberAsTruth.rank < (cast e type).rank := by
  have hrank : (cast e type).rank = 5 + e.rank := rfl
  have := e.one_le_rank
  simp only [numberAsTruth, rank_caseWhen, rankOfBranches_cons, rankOfBranches_nil,
    rankOfOption_none, Condition.rank_compare, rank_number, rank_truth]
  omega

lemma rankOfExprs_literals (texts : List String) :
    rankOfExprs (texts.map fun s => literal (.string s)) = 1 := by
  induction texts with
  | nil => rfl
  | cons s texts ih => rw [List.map_cons, rankOfExprs_cons, ih, rank_literal, Nat.max_self]

lemma rank_textAsTruth (e : Expr) (type : DataType) : e.textAsTruth.rank < (cast e type).rank := by
  have hrank : (cast e type).rank = 5 + e.rank := rfl
  have hone (texts : List String) : (Condition.inList (callOf .lower [e])
      (texts.map fun s => literal (.string s)) false).rank ≤ 3 + e.rank := by
    have := e.one_le_rank
    change 1 + max (callOf .lower [e]).rank _ ≤ _
    rw [rankOfExprs_literals, rank_callOf, rankOfExprs_cons, rankOfExprs_nil]
    simp only [Func.height]
    omega
  have htrue := hone trueTexts
  have hfalse := hone falseTexts
  simp only [textAsTruth, rank_caseWhen, rankOfBranches_cons, rankOfBranches_nil,
    rankOfOption_none, rank_truth]
  omega

end Expr

/-! ### Calls -/

namespace Call

variable {c : Call}

lemma rank_eq (c : Call) : c.rank = c.func.height c.args.length +
    (if c.filter?.isSome then 3 else 0) + max (rankOfExprs c.args) (rankOfFilter c.filter?) := by
  cases c
  rfl

lemma rankOfExprs_args_lt (c : Call) : rankOfExprs c.args < c.rank := by
  have hheight : 1 ≤ c.func.height c.args.length := by
    rw [Func.height.eq_def]
    split <;> omega
  rw [rank_eq]
  omega

lemma rankOfFilter_lt (c : Call) : rankOfFilter c.filter? < c.rank := by
  have hheight : 1 ≤ c.func.height c.args.length := by
    rw [Func.height.eq_def]
    split <;> omega
  rw [rank_eq]
  omega

lemma rank_of_expandLog {e : Expr} (h : c.expandLog = some e) : e.rank < c.rank := by
  rw [expandLog.eq_def] at h
  split at h
  next b x hfunc hargs =>
    cases h
    rw [rank_eq, hfunc, hargs]
    simp only [Func.height, Expr.rank_arith, Expr.rank_callOf, rankOfExprs_cons, rankOfExprs_nil]
    omega
  next => cases h

lemma rank_of_expandPower {e : Expr} (h : c.expandPower = some e) : e.rank < c.rank := by
  rw [expandPower.eq_def] at h
  split at h
  next a b hfunc hargs =>
    cases h
    have := a.one_le_rank
    rw [rank_eq, hfunc, hargs]
    simp only [Func.height, Expr.rank_arith, Expr.rank_callOf, rankOfExprs_cons, rankOfExprs_nil]
    omega
  next => cases h

lemma rank_of_expandHyperbolic {e : Expr} (h : c.expandHyperbolic = some e) : e.rank < c.rank := by
  rw [expandHyperbolic.eq_def] at h
  split at h
  next => cases h
  next x es hargs =>
    have hx := x.one_le_rank
    have hmem : x.rank ≤ rankOfExprs c.args := by
      rw [hargs, rankOfExprs_cons]
      omega
    dsimp only at h
    -- four functions, and in each what is built on the argument is less high than the call
    split at h <;> cases h <;>
      (next hfunc =>
        rw [rank_eq, hfunc]
        simp only [Func.height, Expr.rank_arith, Expr.rank_callOf, Expr.rank_neg,
          Expr.rank_number, rankOfExprs_cons, rankOfExprs_nil]
        omega)

lemma rank_of_expandLeastGreatest {e : Expr} (h : c.expandLeastGreatest = some e) :
    e.rank < c.rank := by
  -- a comparison for every argument, one inside of the other
  have hnested : c.func = .least ∨ c.func = .greatest →
      c.args.length + 1 + rankOfExprs c.args < c.rank := by
    rintro (hfunc | hfunc) <;>
    · rw [rank_eq, hfunc, Func.height]
      omega
  rw [expandLeastGreatest.eq_def] at h
  -- without arguments there is NULL, else the best of the first and the rest
  rcases hargs : c.args with _ | ⟨d, es⟩ <;> simp only [hargs] at h hnested
  · rw [rankOfExprs_nil] at hnested
    split at h
    next hfunc =>
      cases h
      exact Nat.lt_of_le_of_lt (by simp) (hnested (.inl hfunc))
    next hfunc =>
      cases h
      exact Nat.lt_of_le_of_lt (by simp) (hnested (.inr hfunc))
    next => cases h
  · have hbest (op : CompareOp) :
        (Expr.bestOf op d es).rank ≤ (d :: es).length + 1 + rankOfExprs (d :: es) := by
      have := Expr.rank_bestOf_le op (k := rankOfExprs (d :: es)) (Nat.le_max_left d.rank _)
        (Nat.le_max_right d.rank (rankOfExprs es))
      rw [List.length_cons]
      omega
    split at h
    next hfunc =>
      cases h
      exact Nat.lt_of_le_of_lt (hbest .lt) (hnested (.inl hfunc))
    next hfunc =>
      cases h
      exact Nat.lt_of_le_of_lt (hbest .gt) (hnested (.inr hfunc))
    next => cases h

/-- The filter of an aggregate is worth what its place in the argument takes. -/
lemma rank_of_expandFilter {d : Call} (h : c.expandFilter = some d) : d.rank < c.rank := by
  rw [expandFilter, Option.map_eq_some_iff] at h
  obtain ⟨condition, hfilter, rfl⟩ := h
  -- a call of one argument is no higher than that of all of them by more than the `CASE` costs
  have hheight : c.func.height 1 ≤ c.func.height c.args.length + 1 := by
    simp only [Func.height.eq_def]
    split <;> omega
  have hhead : (c.args.head?.getD .null).rank ≤ rankOfExprs c.args := by
    rcases c.args with _ | ⟨e, es⟩
    · exact Nat.le_refl 1
    · rw [rankOfExprs_cons]
      exact Nat.le_max_left _ _
  have harg : (if c.isCountStar then Expr.number 1 else c.args.head?.getD .null).rank ≤
      rankOfExprs c.args := by
    split
    · exact one_le_rankOfExprs c.args
    · exact hhead
  have hcondition := condition.one_le_rank
  have hargs := one_le_rankOfExprs c.args
  rw [rank_eq, rank_eq c, hfilter]
  simp only [List.length_singleton, rankOfExprs_cons, rankOfExprs_nil, Expr.rank_caseWhen,
    rankOfBranches_cons, rankOfBranches_nil, rankOfOption_none, rankOfFilter_none,
    rankOfFilter_some, Option.isSome_none, Option.isSome_some, Bool.false_eq_true, if_false,
    if_true]
  omega

end Call

/-! ### Conditions -/

namespace Condition

lemma rank_inList (e : Expr) (list : List Expr) (negate : Bool) :
    (inList e list negate).rank = 1 + max e.rank (rankOfExprs list) := rfl

lemma rank_inSelect (e : Expr) (q : Select) (negate : Bool) :
    (inSelect e q negate).rank = 1 + max e.rank q.rank := rfl

lemma rank_isDistinct (a b : Expr) (negate : Bool) :
    (isDistinct a b negate).rank = 5 + max a.rank b.rank := rfl

lemma rank_rowInSelect (row : Row) (q : Select) (negate : Bool) :
    (rowInSelect row q negate).rank = 10 + max (rankOfExprs row) q.rank := rfl

lemma rank_hasRows (q : Select) (negate : Bool) : (hasRows q negate).rank = 1 + q.rank := rfl

lemma rank_holds (e : Expr) : (holds e).rank = 1 + e.rank := rfl

lemma max_rank_lt_like (l : Like) : max l.text.rank l.pattern.rank < (like l).rank := by
  obtain ⟨text, pattern, negate, ignoreCase, escape?⟩ := l
  change _ < (if ignoreCase then 4 else 1) + max text.rank pattern.rank
  split <;> exact Nat.lt_add_of_pos_left (by decide)

lemma rank_expandIgnoreCase {l : Like} (h : l.ignoreCase = true) :
    (like l.expandIgnoreCase).rank < (like l).rank := by
  obtain ⟨text, pattern, negate, ignoreCase, escape?⟩ := l
  cases h
  have := text.one_le_rank
  have := pattern.one_le_rank
  change 1 + max (Expr.callOf .lower [text]).rank (Expr.callOf .lower [pattern]).rank <
    4 + max text.rank pattern.rank
  simp only [Expr.rank_callOf, Func.height, rankOfExprs_cons, rankOfExprs_nil]
  omega

lemma rank_expandDistinct (a b : Expr) (negate : Bool) :
    (expandDistinct a b negate).rank < (isDistinct a b negate).rank := by
  simp only [rank_isDistinct, expandDistinct, equals, rank_compare, Expr.rank_caseWhen,
    rankOfBranches_cons,
    rankOfBranches_nil, rankOfOption_some, Expr.rank_number, rank_and, rank_or, rank_isNull,
    rankOfConditions_cons, rankOfConditions_nil]
  omega

lemma rank_toCase (c : Condition) (b d : Bool) :
    (c.toCase (.truth b) (.truth d)).rank < (Expr.condition c).rank := by
  have hrank : (Expr.condition c).rank = 3 + c.rank := rfl
  have := c.one_le_rank
  simp only [toCase, Expr.rank_caseWhen, rankOfBranches_cons, rankOfBranches_nil,
    rankOfOption_none, Expr.rank_truth, rank_not]
  omega

end Condition

end Polysql

import Mathlib.Logic.Function.Iterate
import Polysql.Proofs.Evaluation.Bitwise
import Polysql.Proofs.Evaluation.Detour
import Polysql.Proofs.Evaluation.Run
/-!
Why evaluation ends. Evaluation is a solution of the equation `w.next input = w`, where each step
may go on with a rewritten form that is larger than the formula. The rank goes down all the same
(`Evaluators.Reenters.rank_lt`); so the equation has one solution, which is reached in as many steps
as the rank of a formula (`Evaluators.eq_ofRank_of_next`, `Evaluators.agree_iterate_ofRank`), and in
which every run ends (`Evaluators.ofRank_ends`). Where the input is the values of columns, this is
the value of the expression and the truth of the condition, which are computed from those of their
parts (`Evaluators.next_ofEval`).
-/

namespace Polysql

variable {σ α : Type}

namespace Evaluators

/-! ### Re-entry -/

/-- No run has an end. -/
def idle : Evaluators σ :=
  ⟨fun _ => .endless, fun _ => .endless⟩

/-- The run of a formula depends on that of another: it is not the same for all runs of the other
formula, when the remaining formulas keep theirs. -/
def Reenters (input : Input σ) (p q : Formula) : Prop :=
  ∃ w w' : Evaluators σ, Agree (fun r => r ≠ q) w w' ∧
    ¬ Agree (fun r => r = p) (w.next input) (w'.next input)

section

variable {input : Input σ} {p q : Formula}

/-- The rank goes down from a formula to what its run depends on. -/
lemma Reenters.rank_lt (h : Reenters input p q) : q.rank < p.rank := by
  obtain ⟨w, w', hsame, hne⟩ := h
  by_contra hle
  -- all formulas of lower rank than `p` differ from `q`, so a step of `p` cannot tell the two apart
  have hbelow : Agree (fun r => r.rank < p.rank) w w' :=
    fun r hr => hsame r (by rintro rfl; exact hle hr)
  exact hne fun r hr => next_agree hbelow r (Nat.le_of_eq (congrArg Formula.rank hr))

lemma wellFounded_reenters (input : Input σ) :
    WellFounded fun q p : Formula => Reenters input p q :=
  Subrelation.wf (fun h => h.rank_lt) (measure Formula.rank).wf

/-- A condition that is always evaluated as another one depends on that one. -/
lemma reenters_of_condition [Nonempty σ] {c d : Condition}
    (h : ∀ w : Evaluators σ, (w.next input).condition c = w.condition d) :
    Reenters input (.condition c) (.condition d) := by
  classical
  refine ⟨idle, { idle with condition := Function.update idle.condition d (.ofExcept (.ok none)) },
    fun r hr => ?_, fun hsame => ?_⟩
  · cases r with
    | expr e => rfl
    | condition r =>
      change idle.condition r = Function.update idle.condition d (.ofExcept (.ok none)) r
      exact (Function.update_of_ne (fun hrd => hr (congrArg Formula.condition hrd)) _ _).symm
  · have hrun := ((h _).symm.trans (hsame (.condition c) rfl)).trans (h _)
    exact Run.ofExcept_ne_endless _ (hrun.trans (Function.update_self d _ _)).symm

/-- An expression that is always evaluated as another one depends on that one. -/
lemma reenters_of_expr [Nonempty σ] {e f : Expr}
    (h : ∀ w : Evaluators σ, (w.next input).expr e = w.expr f) :
    Reenters input (.expr e) (.expr f) := by
  classical
  refine ⟨idle, { idle with expr := Function.update idle.expr f (.ofExcept (.ok .null)) },
    fun r hr => ?_, fun hsame => ?_⟩
  · cases r with
    | expr r =>
      change idle.expr r = Function.update idle.expr f (.ofExcept (.ok .null)) r
      exact (Function.update_of_ne (fun hrf => hr (congrArg Formula.expr hrf)) _ _).symm
    | condition c => rfl
  · have hrun := ((h _).symm.trans (hsame (.expr e) rfl)).trans (h _)
    exact Run.ofExcept_ne_endless _ (hrun.trans (Function.update_self f _ _)).symm

/-- Evaluation enters every rewritten form. -/
lemma reenters_of_rewrites [Nonempty σ] (h : p.Rewrites q) : Reenters input p q := by
  cases h with
  | bit h => exact reenters_of_expr fun w => by rw [next_expr, stepExpr, h]
  | between h => exact reenters_of_condition fun w => by rw [next_condition, stepCondition, h]
  | rowCompare h | rowInList h | rowBetween h =>
    refine reenters_of_condition fun w => ?_
    rw [next_condition, stepCondition, h]
    rfl
  | rowIsNull row negate => exact reenters_of_condition fun w => rfl

end

/-! ### All steps -/

section

variable (input : Input σ)

/-- After some steps, the runs of all formulas of that rank are the same, whatever the steps started
from. -/
lemma agree_iterate (w w' : Evaluators σ) :
    ∀ n : Nat, Agree (fun p => p.rank ≤ n) ((next input)^[n] w) ((next input)^[n] w')
  | 0 => fun p hp => absurd p.one_le_rank (Nat.not_le_of_gt (Nat.lt_succ_of_le hp))
  | n + 1 => by
    rw [Function.iterate_succ_apply', Function.iterate_succ_apply']
    exact next_agree fun p hp => agree_iterate w w' n p (Nat.le_of_lt_succ hp)

/-- The runs of all formulas, each after as many steps as its rank. -/
def ofRank : Evaluators σ :=
  ⟨fun e => ((next input)^[e.rank] idle).expr e,
    fun c => ((next input)^[c.rank] idle).condition c⟩

lemma run_ofRank (p : Formula) : (ofRank input).run p = ((next input)^[p.rank] idle).run p := by
  cases p <;> rfl

/-- Any number of steps has reached the runs of the formulas whose rank is no higher, whatever the
steps started from. -/
lemma agree_iterate_ofRank (below : Evaluators σ) (n : Nat) :
    Agree (fun p => p.rank ≤ n) ((next input)^[n] below) (ofRank input) := by
  intro p hp
  obtain ⟨k, rfl⟩ := Nat.exists_eq_add_of_le (show p.rank ≤ n from hp)
  rw [Function.iterate_add_apply, run_ofRank]
  exact agree_iterate input _ _ p.rank p (Nat.le_refl _)

lemma eq_of_agree {w w' : Evaluators σ} (h : ∀ p, w.run p = w'.run p) : w = w' := by
  cases w
  cases w'
  rw [mk.injEq]
  exact ⟨funext fun e => h (.expr e), funext fun c => h (.condition c)⟩

lemma next_ofRank : (ofRank input).next input = ofRank input := by
  refine eq_of_agree fun p => ?_
  -- one step after those which have reached the formulas below `p` is as good as those for `p`
  have hreached := agree_iterate_ofRank input (ofRank input) p.rank
  have hstep := agree_iterate_ofRank input (ofRank input) (p.rank + 1)
  rw [Function.iterate_succ_apply'] at hstep
  have hnext : Agree (fun r => r.rank ≤ p.rank) (next input _) (next input _) :=
    next_agree fun r hr => hreached r (Nat.le_of_lt hr)
  exact (hnext p (Nat.le_refl _)).symm.trans (hstep p (Nat.le_succ _))

/-- The equation of all runs has no other solution. -/
lemma eq_ofRank_of_next {w : Evaluators σ} (h : w.next input = w) : w = ofRank input := by
  refine eq_of_agree fun p => ?_
  have hreached := agree_iterate_ofRank input w p.rank p (Nat.le_refl _)
  rwa [Function.iterate_fixed h] at hreached

/-- Every run ends. -/
lemma ofRank_ends (p : Formula) : ((ofRank input).run p).Ends := by
  induction hp : p.rank using Nat.strong_induction_on generalizing p with
  | _ n ih =>
    rw [← next_ofRank]
    exact next_ends (fun q hq => ih q.rank hq q rfl) p (Nat.le_of_eq hp)

end

/-! ### The values of columns -/

section

variable (columns : Bindings)

/-- The value of every expression and the truth of every condition. -/
def ofEval : Evaluators σ :=
  ⟨fun e => .ofExcept (e.eval columns), fun c => .ofExcept (c.eval columns)⟩

lemma expr_ofEval (e : Expr) :
    (ofEval columns : Evaluators σ).expr e = .ofExcept (e.eval columns) := rfl

lemma condition_ofEval (c : Condition) :
    (ofEval columns : Evaluators σ).condition c = .ofExcept (c.eval columns) := rfl

lemma mapM_expr_ofEval (es : List Expr) :
    es.mapM (ofEval columns : Evaluators σ).expr = .ofExcept (collect (evalEach columns es)) := by
  rw [evalEach_eq_map, collect, List.mapM_map]
  exact Run.ofExcept_mapM (Expr.eval columns) es

lemma evalAll_eq_mapM (cs : List Condition) :
    evalAll columns cs = cs.mapM (Condition.eval columns) := by
  induction cs with
  | nil => rfl
  | cons c cs ih => rw [evalAll, List.mapM_cons, ih]

lemma mapM_condition_ofEval (cs : List Condition) :
    cs.mapM (ofEval columns : Evaluators σ).condition = .ofExcept (evalAll columns cs) := by
  rw [evalAll_eq_mapM]
  exact Run.ofExcept_mapM (Condition.eval columns) cs

lemma orNull_ofEval (e? : Option Expr) :
    (ofEval columns : Evaluators σ).orNull e? = .ofExcept (evalOrNull columns e?) := by
  cases e? <;> rfl

lemma branches_ofEval (otherwise : Outcome) (bs : List (Condition × Expr)) :
    (ofEval columns : Evaluators σ).branches (.ofExcept otherwise) bs =
      .ofExcept (evalBranches columns otherwise bs) := by
  induction bs with
  | nil => rfl
  | cons b bs ih =>
    obtain ⟨c, e⟩ := b
    rw [branches, evalBranches, ih, condition_ofEval, expr_ofEval, ← Run.ofExcept_bind]
    exact congrArg _ (funext fun t => (apply_ite Run.ofExcept _ _ _).symm)

lemma cases_ofEval (v : Value) (otherwise : Outcome) (bs : List (Expr × Expr)) :
    (ofEval columns : Evaluators σ).cases v (.ofExcept otherwise) bs =
      .ofExcept (evalCases columns v otherwise bs) := by
  induction bs with
  | nil => rfl
  | cons b bs ih =>
    obtain ⟨u, e⟩ := b
    rw [cases, evalCases, ih, expr_ofEval, expr_ofEval, ← Run.ofExcept_bind]
    exact congrArg _ (funext fun u => (apply_ite Run.ofExcept _ _ _).symm)

/-- The value of an expression is that of a step which goes on with values. -/
lemma stepExpr_ofEval (e : Expr) :
    (ofEval columns : Evaluators σ).stepExpr (.ofBindings columns) e =
      .ofExcept (e.eval columns) := by
  cases e with
  | constant | asterisk | subquery | sequence | columnDefault => rfl
  | field name type =>
    have hask : (Input.ofBindings columns : Input σ).ask name =
        .ofExcept ((columns name).elim (refuse ("no value for field `" ++ name.text ++ "`")) .ok) :=
      rfl
    rw [stepExpr, hask, Expr.eval]
    cases columns name <;> rfl
  | bit op a b? =>
    -- an operation is spelled out, or it is one of the two that are not
    rw [stepExpr]
    cases hexpand : Expr.expandBit op a b? with
    | some e => exact congrArg Run.ofExcept (Expr.eval_of_expandBit columns hexpand)
    | none =>
      simp only [expr_ofEval, orNull_ofEval, Run.ofExcept_bind]
      cases op with
      | and | or => rfl
      | _ => cases hexpand
  | call c =>
    obtain ⟨f, args, distinct, filter?⟩ := c
    rw [stepExpr, Expr.eval, mapM_expr_ofEval]
    split
    · rfl
    · exact Run.ofExcept_bind _ _
  | caseWhen branches otherwise? =>
    rw [stepExpr, orNull_ofEval, branches_ofEval, eval_caseWhen]
  | caseOf operand branches otherwise? =>
    rw [stepExpr, orNull_ofEval]
    simp only [cases_ofEval, expr_ofEval, Run.ofExcept_bind]
    rfl
  | arith | neg | cast | condition =>
    simp only [stepExpr, expr_ofEval, condition_ofEval, Run.ofExcept_bind]
    rfl

/-- The truth of a condition is that of a step which goes on with values. -/
lemma stepCondition_ofEval (c : Condition) :
    (ofEval columns : Evaluators σ).stepCondition c = .ofExcept (c.eval columns) := by
  cases c with
  | always | never | inSelect | rowInSelect | hasRows => rfl
  | like l =>
    simp only [stepCondition, expr_ofEval, Run.ofExcept_bind]
    rw [eval_like]
  | between e low high negate symmetric =>
    rw [stepCondition]
    cases hexpand : Condition.expandBetween e low high negate symmetric with
    | some c => exact congrArg Run.ofExcept (eval_expandBetween columns hexpand)
    | none =>
      -- a range that is not spelled out has plain bounds
      have hplain : symmetric = false := by
        rw [Condition.expandBetween] at hexpand
        split at hexpand
        · cases hexpand
        · exact Bool.eq_false_iff.mpr ‹_›
      simp only [expr_ofEval, Run.ofExcept_bind]
      rw [hplain]
      rfl
  | inList e list negate =>
    simp only [stepCondition, expr_ofEval, mapM_expr_ofEval, Run.ofExcept_bind]
    rfl
  | rowCompare left op right =>
    simp only [stepCondition, condition_ofEval, Run.ofExcept_bind]
    rw [eval_expandRowCompare]
  | rowInList row list negate =>
    simp only [stepCondition, condition_ofEval, Run.ofExcept_bind]
    rw [eval_expandRowIn]
  | rowIsNull row negate =>
    rw [stepCondition, condition_ofEval, eval_expandRowIsNull]
  | rowBetween row low high negate symmetric =>
    simp only [stepCondition, condition_ofEval, Run.ofExcept_bind]
    rw [eval_expandRowBetween]
  | and | or =>
    simp only [stepCondition, mapM_condition_ofEval, Run.ofExcept_bind]
    rfl
  | compare | isNull | isDistinct | not | xor | holds =>
    simp only [stepCondition, expr_ofEval, condition_ofEval, Run.ofExcept_bind]
    rfl

lemma next_ofEval :
    (ofEval columns : Evaluators σ).next (.ofBindings columns) = ofEval columns := by
  rw [next, funext (stepExpr_ofEval columns), funext (stepCondition_ofEval columns), ofEval]

end

end Evaluators

end Polysql

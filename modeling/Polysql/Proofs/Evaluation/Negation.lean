import Polysql.Proofs.Evaluation.Detour
/-!
The negation of a predicate. A predicate that carries its own negation is, negated, as true as the
negation of it not negated (`Predicate.eval_condition_not`): unknown stays unknown, and what fails
fails with the same error. The detours of the two are different trees, a disjunction of one against
a conjunction of the other, and negate each other all the same (`Predicate.eval_expand?_not`).

The test of a row for NULL is the one predicate that does otherwise.
-/

namespace Polysql

namespace Truth

/-- Turned round once more, a truth is negated. -/
lemma negateIf_not (negate : Bool) (t : Truth) :
    negateIf (!negate) t = (negateIf negate t).not := by
  rcases t with _ | _ | _ <;> cases negate <;> rfl

lemma not_some_bne (b negate : Bool) :
    (some (b != !negate) : Truth) = not (some (b != negate)) := by
  cases b <;> cases negate <;> rfl

/-- A match that is negated once more. What is no text is refused either way. -/
lemma like_not (text pattern : Expr) (negate ignoreCase : Bool) (escape? : Option Char)
    (v w : Value) :
    like ⟨text, pattern, !negate, ignoreCase, escape?⟩ v w =
      (like ⟨text, pattern, negate, ignoreCase, escape?⟩ v w).map not := by
  simp only [like]
  split
  · rfl
  · split
    · rw [not_some_bne]; rfl
    · rfl

end Truth

/-- A predicate that can carry its own negation. -/
inductive Predicate where
  | like (text pattern : Expr) (ignoreCase : Bool) (escape? : Option Char)
  | between (e low high : Expr) (symmetric : Bool)
  | inList (e : Expr) (list : List Expr)
  | isNull (e : Expr)
  | isDistinct (left right : Expr)
  | rowInList (row : Row) (list : List Row)
  | rowBetween (row low high : Row) (symmetric : Bool)

namespace Predicate

/-- The predicate as a condition, negated or not. -/
def condition (negate : Bool) : Predicate → Condition
  | like text pattern ignoreCase escape? => .like ⟨text, pattern, negate, ignoreCase, escape?⟩
  | between e low high symmetric => .between e low high negate symmetric
  | inList e list => .inList e list negate
  | isNull e => .isNull e negate
  | isDistinct left right => .isDistinct left right negate
  | rowInList row list => .rowInList row list negate
  | rowBetween row low high symmetric => .rowBetween row low high negate symmetric

section

variable (columns : Bindings) (negate : Bool)

lemma eval_inList (e : Expr) (list : List Expr) :
    (Condition.inList e list negate).eval columns = do
      let v ← e.eval columns
      return Truth.inList v (← collect (evalEach columns list)) negate :=
  rfl

/-- A match with a pattern, negated. -/
lemma eval_like_not (text pattern : Expr) (ignoreCase : Bool) (escape? : Option Char) :
    (Condition.like ⟨text, pattern, !negate, ignoreCase, escape?⟩).eval columns =
      ((Condition.like ⟨text, pattern, negate, ignoreCase, escape?⟩).eval columns).map
        Truth.not := by
  rw [eval_like, eval_like]
  cases text.eval columns with
  | error e => rfl
  | ok v =>
    cases pattern.eval columns with
    | error e => rfl
    | ok w => exact Truth.like_not text pattern negate ignoreCase escape? v w

/-- A row in a list of rows, negated. -/
lemma rowInList_not (row : List Outcome) (list : List (List Outcome)) :
    Truth.rowInList row list (!negate) = (Truth.rowInList row list negate).map Truth.not := by
  rw [Truth.rowInList, Truth.rowInList]
  cases list.forM (checkOutcomes row) with
  | error e => rfl
  | ok _ =>
    simp only [ok_bind, Truth.negateIf_not]
    cases list.mapM (pairUp row) <;> rfl

/-- A row between two others, negated. -/
lemma rowBetween_not (row low high : List Outcome) (symmetric : Bool) :
    Truth.rowBetween row low high (!negate) symmetric =
      (Truth.rowBetween row low high negate symmetric).map Truth.not := by
  simp only [Truth.rowBetween, Truth.negateIf_not]
  cases checkOutcomes row low <;> cases checkOutcomes row high <;> cases pairUp row low <;>
    cases pairUp row high <;> rfl

/-- A predicate that is negated once more is as true as its negation. -/
theorem eval_condition_not (p : Predicate) :
    (p.condition !negate).eval columns = ((p.condition negate).eval columns).map Truth.not := by
  -- the negation is the last step of each predicate, behind all that can be NULL or an error
  cases p with
  | like text pattern ignoreCase escape? =>
    exact eval_like_not columns negate text pattern ignoreCase escape?
  | between e low high symmetric =>
    simp only [condition, eval_between, Truth.between, Truth.negateIf_not]
    cases e.eval columns <;> cases low.eval columns <;> cases high.eval columns <;> rfl
  | inList e list =>
    simp only [condition, eval_inList, Truth.inList, Truth.negateIf_not]
    cases e.eval columns <;> cases collect (evalEach columns list) <;> rfl
  | isNull e =>
    simp only [condition, eval_isNull, Truth.not_some_bne]
    cases e.eval columns <;> rfl
  | isDistinct a b =>
    simp only [condition, eval_isDistinct, Truth.not_some_bne]
    cases a.eval columns <;> cases b.eval columns <;> rfl
  | rowInList row list => exact rowInList_not negate _ _
  | rowBetween row low high symmetric => exact rowBetween_not negate _ _ _ symmetric

/-- The detour of a predicate that is negated once more is as true as the negation of its detour,
and there is one for both or for neither. -/
theorem eval_expand?_not (p : Predicate) :
    (p.condition !negate).expand?.map (Evaluated.ofExcept · >>= Condition.eval columns) =
      (p.condition negate).expand?.map fun d? =>
        (Evaluated.ofExcept d? >>= Condition.eval columns).map Truth.not := by
  cases p with
  | like text pattern ignoreCase escape? =>
    exact congrArg some (eval_like_not columns negate _ _ false escape?)
  | between e low high symmetric =>
    -- only symmetric bounds are spelled out, and that condition is negated as a whole
    cases symmetric with
    | false => rfl
    | true =>
      have hdetour (n : Bool) {c : Condition}
          (h : Condition.expandBetween e low high n true = some c) :=
        eval_expandBetween columns h
      refine congrArg some ?_
      change Condition.eval columns _ = (Condition.eval columns _).map Truth.not
      rw [hdetour (!negate) (if_pos rfl), hdetour negate (if_pos rfl)]
      exact eval_condition_not columns negate (between e low high true)
  | inList e list => rfl
  | isNull e => rfl
  | isDistinct a b =>
    simp only [condition, Condition.expand?, Option.map_some, Evaluated.ofExcept_ok, ok_bind,
      eval_expandDistinct]
    exact congrArg some (eval_condition_not columns negate (isDistinct a b))
  | rowInList row list =>
    simp only [condition, Condition.expand?, Option.map_some, eval_expandRowIn]
    exact congrArg some (eval_condition_not columns negate (rowInList row list))
  | rowBetween row low high symmetric =>
    simp only [condition, Condition.expand?, Option.map_some, eval_expandRowBetween]
    exact congrArg some (eval_condition_not columns negate (rowBetween row low high symmetric))

end

/-- **Negation of a predicate.** A predicate that is negated once more has the negated truth,
unknown if it was, and fails exactly where it did and with the same error; so it agrees with its
negation as a condition. Its detour, if it has one, turns round in the same way. -/
theorem eval_negated (columns : Bindings) (p : Predicate) (negate : Bool) :
    (p.condition !negate).eval columns = ((p.condition negate).eval columns).map Truth.not ∧
    (∀ e, (p.condition !negate).eval columns = .error e ↔
      (p.condition negate).eval columns = .error e) ∧
    (p.condition !negate).eval columns = (Condition.not (p.condition negate)).eval columns ∧
    (p.condition !negate).expand?.map (Evaluated.ofExcept · >>= Condition.eval columns) =
      (p.condition negate).expand?.map fun d? =>
        (Evaluated.ofExcept d? >>= Condition.eval columns).map Truth.not := by
  have hnot := eval_condition_not columns negate p
  refine ⟨hnot, fun e => ?_, ?_, eval_expand?_not columns negate p⟩
  · rw [hnot]
    cases (p.condition negate).eval columns with
    | error _ => rfl
    | ok t => exact ⟨nofun, nofun⟩
  · rw [hnot, Condition.eval_not]

/-- A row of which one value is NULL: that it is NULL and that it is not are both false. -/
example :
    let row : Row := [.null, .number 1]
    (Condition.rowIsNull row false).eval Bindings.none_ = .ok (some false) ∧
      (Condition.rowIsNull row true).eval Bindings.none_ = .ok (some false) :=
  ⟨rfl, rfl⟩

end Predicate

end Polysql

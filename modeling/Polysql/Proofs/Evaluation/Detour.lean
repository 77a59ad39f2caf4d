import Polysql.Proofs.Evaluation.Row
/-!
The detours of single conditions, evaluated. A test for distinctness that is spelled out as a `CASE`
is as true as the test itself and never unknown (`eval_expandDistinct`), a condition that is spelled
out as a `CASE` has its value (`eval_toCase`), and a match in small letters is as true as the match
that ignores case, as long as both sides are texts or NULL (`eval_expandIgnoreCase`). Together with
the detours of rows, every detour that needs no query is exact (`Condition.eval_of_expand?`).
-/

namespace Polysql

/-- The value is a text, or NULL. -/
def Value.IsTextual (v : Value) : Prop :=
  v = .null ∨ ∃ s, v = .string s

/-- The expression has no value but texts and NULL. It may have none. -/
def Expr.IsTextual (columns : Bindings) (e : Expr) : Prop :=
  ∀ v, e.eval columns = .ok v → v.IsTextual

section

variable (columns : Bindings)

lemma eval_condition (c : Condition) :
    (Expr.condition c).eval columns = (c.eval columns).map Truth.toValue := by
  change (do return (← c.eval columns).toValue) = _
  cases c.eval columns <;> rfl

lemma eval_like (l : Like) :
    (Condition.like l).eval columns = (do
      let v ← l.text.eval columns
      let w ← l.pattern.eval columns
      Truth.like l v w) := by
  cases l
  rfl

lemma eval_isDistinct (a b : Expr) (negate : Bool) :
    (Condition.isDistinct a b negate).eval columns = do
      let v ← a.eval columns
      let w ← b.eval columns
      return some ((!v.notDistinct w) != negate) :=
  rfl

lemma eval_number (n : Nat) : (Expr.number n).eval columns = .ok (.ofNat n) := rfl

lemma eval_caseWhen (branches : List (Condition × Expr)) (otherwise? : Option Expr) :
    (Expr.caseWhen branches otherwise?).eval columns =
      evalBranches columns (evalOrNull columns otherwise?) branches :=
  rfl

lemma evalBranches_cons (otherwise : Outcome) (c : Condition) (e : Expr)
    (branches : List (Condition × Expr)) :
    evalBranches columns otherwise ((c, e) :: branches) = (do
      if (← c.eval columns) = some true then e.eval columns
      else evalBranches columns otherwise branches) :=
  rfl

/-! ### Distinctness -/

lemma Truth.compare_eq (v w : Value) : Truth.compare v .eq w = v.equal? w := rfl

/-- The numbers that stand for truth values are equal if those are. -/
lemma Truth.compare_ofNat_toNat (p q : Bool) :
    Truth.compare (.ofNat p.toNat) .eq (.ofNat q.toNat) = some (p == q) := by
  cases p <;> cases q <;> decide

/-- The `CASE` that tells by a number whether two values are distinct: both are NULL, one of them
is, or they are compared. -/
lemma eval_distinctCase (a b : Expr) :
    (Expr.caseWhen
        [(.and [.isNull a false, .isNull b false], .number 0),
          (.or [.isNull a false, .isNull b false], .number 1),
          (.equals a b, .number 0)]
        (some (.number 1))).eval columns = do
      let v ← a.eval columns
      let w ← b.eval columns
      return .ofNat (!v.notDistinct w).toNat := by
  rw [eval_caseWhen, evalBranches_cons, evalBranches_cons, evalBranches_cons, Condition.eval_and,
    Condition.eval_or, Condition.equals, eval_compare]
  simp only [evalAll_cons, evalAll_nil, eval_isNull, eval_number]
  cases a.eval columns with
  | error e => rfl
  | ok v =>
    cases b.eval columns with
    | error e => rfl
    | ok w =>
      simp only [ok_bind, pure_bind, Truth.compare_eq]
      rw [Value.notDistinct]
      -- both NULL, one of them, or none, when it is up to their equality
      cases v.isNull <;> cases w.isNull
      · rcases v.equal? w with _ | _ | _ <;> rfl
      · rfl
      · rfl
      · rfl

/-- A test for distinctness and its detour agree. -/
theorem eval_expandDistinct (a b : Expr) (negate : Bool) :
    (Condition.expandDistinct a b negate).eval columns =
      (Condition.isDistinct a b negate).eval columns := by
  have hnumber : Expr.number (if negate then 0 else 1) = .number (!negate).toNat := by
    cases negate <;> rfl
  rw [Condition.expandDistinct, hnumber, Condition.equals, eval_compare, eval_distinctCase,
    eval_number, eval_isDistinct]
  cases a.eval columns with
  | error e => rfl
  | ok v =>
    cases b.eval columns with
    | error e => rfl
    | ok w =>
      simp only [ok_bind, pure_bind, Truth.compare_ofNat_toNat]
      cases v.notDistinct w <;> cases negate <;> rfl

/-- A test for distinctness is never unknown. -/
lemma eval_isDistinct_ne_unknown (a b : Expr) (negate : Bool) :
    (Condition.isDistinct a b negate).eval columns ≠ .ok none := by
  rw [eval_isDistinct]
  cases a.eval columns <;> cases b.eval columns <;> exact nofun

/-! ### Conditions as values -/

/-- A condition as a value: that of the branch it selects, and NULL when it is unknown. -/
theorem eval_toCase (c : Condition) (onTrue onFalse : Expr) :
    (c.toCase onTrue onFalse).eval columns = do
      match ← c.eval columns with
      | some true => onTrue.eval columns
      | some false => onFalse.eval columns
      | none => return .null := by
  rw [Condition.toCase, eval_caseWhen, evalBranches_cons, evalBranches_cons, Condition.eval_not]
  rcases c.eval columns with _ | (_ | _ | _) <;> rfl

/-- A condition as a truth value and its detour agree. -/
theorem eval_toCase_truth (c : Condition) :
    (c.toCase (.truth true) (.truth false)).eval columns = (Expr.condition c).eval columns := by
  rw [eval_toCase, eval_condition]
  rcases c.eval columns with _ | (_ | _ | _) <;> rfl

/-! ### Matches -/

lemma eval_lower (e : Expr) :
    (Expr.callOf .lower [e]).eval columns = e.eval columns >>= fun v => Func.lower.apply [v] := by
  change (do Func.lower.apply (← collect (evalEach columns [e]))) = _
  rw [evalEach_cons, collect_cons]
  cases e.eval columns <;> rfl

/-- A match of two texts that ignores case is a match of them in small letters. -/
lemma Truth.like_lower {l : Like} (hcase : l.ignoreCase = true) {v w : Value}
    (hv : v.IsTextual) (hw : w.IsTextual) :
    (do Truth.like l.expandIgnoreCase (← Func.lower.apply [v]) (← Func.lower.apply [w])) =
      Truth.like l v w := by
  obtain ⟨text, pattern, negate, ignoreCase, escape?⟩ := l
  obtain rfl : ignoreCase = true := hcase
  obtain rfl | ⟨s, rfl⟩ := hv <;> obtain rfl | ⟨p, rfl⟩ := hw <;> rfl

/-- A match that ignores case and its detour agree on texts and NULL. -/
theorem eval_expandIgnoreCase {l : Like} (hcase : l.ignoreCase = true)
    (htext : l.text.IsTextual columns) (hpattern : l.pattern.IsTextual columns) :
    (Condition.like l.expandIgnoreCase).eval columns = (Condition.like l).eval columns := by
  rw [eval_like, eval_like, Like.expandIgnoreCase, eval_lower, eval_lower]
  cases hv : l.text.eval columns with
  | error e => rfl
  | ok v =>
    cases hw : l.pattern.eval columns with
    | error e =>
      -- a text in small letters is a value, so the pattern fails first on both sides
      obtain rfl | ⟨s, rfl⟩ := htext v hv <;> rfl
    | ok w => exact Truth.like_lower hcase (htext v hv) (hpattern w hw)

end

/-! ### All detours -/

namespace Condition

/-- **Detours of boolean features are exact.** A test for distinctness is as true as its detour,
which is never unknown; an exclusive disjunction is as true as its detour, a condition has the value
of its `CASE`, and a match that ignores case is as true as that in small letters when its sides are
texts or NULL. What fails, fails with the same error. -/
theorem eval_booleanDetours (columns : Bindings) :
    (∀ (a b : Expr) (negate : Bool),
      (expandDistinct a b negate).eval columns = (isDistinct a b negate).eval columns ∧
        (expandDistinct a b negate).eval columns ≠ .ok none) ∧
    (∀ c d : Condition, (expandXor c d).eval columns = (xor c d).eval columns) ∧
    (∀ c : Condition,
      (c.toCase (.truth true) (.truth false)).eval columns = (Expr.condition c).eval columns) ∧
    ∀ l : Like, l.ignoreCase = true → l.text.IsTextual columns → l.pattern.IsTextual columns →
      (like l.expandIgnoreCase).eval columns = (like l).eval columns := by
  refine ⟨fun a b negate => ?_, eval_expandXor columns, eval_toCase_truth columns,
    fun l => eval_expandIgnoreCase columns⟩
  rw [eval_expandDistinct]
  exact ⟨rfl, eval_isDistinct_ne_unknown columns a b negate⟩

/-- Two texts that differ in their capitals: they match, and so do they in small letters. -/
theorem eval_booleanDetours_ofTexts :
    let l : Like := ⟨.literal (.string "Ab"), .literal (.string "aB"), false, true, none⟩
    (like l.expandIgnoreCase).eval Bindings.none_ = (like l).eval Bindings.none_ ∧
      (like l).eval Bindings.none_ = .ok (some true) := by
  have htextual (s : String) : (Expr.literal (.string s)).IsTextual Bindings.none_ := by
    rintro v ⟨⟩
    exact .inr ⟨s, rfl⟩
  exact ⟨(eval_booleanDetours Bindings.none_).2.2.2 _ rfl (htextual "Ab") (htextual "aB"), rfl⟩

/-- The detour of a condition is as true as the condition itself, and fails where it does. Only the
match that ignores case asks for texts, and a detour through a query has no truth of its own. -/
theorem eval_of_expand? {columns : Bindings} {c : Condition} {d? : Except Error Condition}
    (h : c.expand? = some d?)
    (hlike : ∀ l, c = like l →
      l.ignoreCase = true ∧ l.text.IsTextual columns ∧ l.pattern.IsTextual columns)
    (hquery : ∀ row q negate, c ≠ rowInSelect row q negate) :
    (Evaluated.ofExcept d? >>= Condition.eval columns) = c.eval columns := by
  -- the conditions that are rewritten, each by its own lemma; there is no rewrite of the others
  cases c with
  | like l =>
    obtain ⟨hcase, htext, hpattern⟩ := hlike l rfl
    cases h
    exact eval_expandIgnoreCase columns hcase htext hpattern
  | between e low high negate symmetric =>
    obtain ⟨d, hd, rfl⟩ := Option.map_eq_some_iff.mp h
    exact eval_expandBetween columns hd
  | isDistinct a b negate =>
    cases h
    exact eval_expandDistinct columns a b negate
  | rowCompare left op right =>
    cases h
    exact eval_expandRowCompare columns left op right
  | rowInList row list negate =>
    cases h
    exact eval_expandRowIn columns row list negate
  | rowInSelect row q negate => exact absurd rfl (hquery row q negate)
  | rowIsNull row negate =>
    cases h
    exact eval_expandRowIsNull columns row negate
  | rowBetween row low high negate symmetric =>
    cases h
    exact eval_expandRowBetween columns row low high negate symmetric
  | xor c d =>
    cases h
    exact eval_expandXor columns c d
  | _ => cases h

end Condition

end Polysql

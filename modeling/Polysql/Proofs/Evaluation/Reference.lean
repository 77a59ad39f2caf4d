import Polysql.Proofs.Evaluation.Flat
import Polysql.Proofs.Evaluation.Row
/-!
The columns that a part of a statement refers to, at any depth. The value of an expression and the
truth of a condition depend on the values of these columns only (`Expr.eval_congr`,
`Condition.eval_congr`).
-/

namespace Polysql

namespace Part

variable {a b : Bindings} {p q : Part}

/-- A column is referred to somewhere in a part. -/
def RefersTo (p : Part) (n : Name) : Prop :=
  ∃ type, (expr (.field n type)).Inside p

/-- The columns that a part refers to have the same values. -/
def ReadsAlike (a b : Bindings) (p : Part) : Prop :=
  ∀ n, p.RefersTo n → a n = b n

lemma RefersTo.of_mem_parts {n : Name} (h : q.RefersTo n) (hq : q ∈ p.parts) : p.RefersTo n :=
  let ⟨type, hinside⟩ := h
  ⟨type, hinside.tail hq⟩

/-- A part refers to what its immediate parts refer to, and a column to itself. -/
lemma refersTo_iff {n : Name} :
    p.RefersTo n ↔ (∃ type, p = expr (.field n type)) ∨ ∃ q ∈ p.parts, q.RefersTo n := by
  constructor
  · rintro ⟨type, hinside⟩
    cases hinside with
    | refl => exact .inl ⟨type, rfl⟩
    | tail hinside hq => exact .inr ⟨_, hq, type, hinside⟩
  · rintro (⟨type, rfl⟩ | ⟨q, hq, hn⟩)
    · exact ⟨type, .refl⟩
    · exact hn.of_mem_parts hq

lemma refersTo_column_iff {m n : Name} : (expr (.column m)).RefersTo n ↔ n = m := by
  rw [refersTo_iff]
  constructor
  · rintro (⟨type, h⟩ | ⟨q, hq, -⟩)
    · cases h
      rfl
    · cases hq
  · rintro rfl
    exact .inl ⟨.unknown, rfl⟩

lemma ReadsAlike.parts (h : p.ReadsAlike a b) : ∀ q ∈ p.parts, q.ReadsAlike a b :=
  fun _ hq n hn => h n (hn.of_mem_parts hq)

lemma ReadsAlike.field {n : Name} {type : DataType} (h : (expr (.field n type)).ReadsAlike a b) :
    a n = b n :=
  h n ⟨type, .refl⟩

/-- What holds of the parts of some branches holds of those of the first one and of the rest. -/
lemma partsOfBranches_cons {α : Type} {part : α → Part} {c : α} {e : Expr}
    {branches : List (α × Expr)} {P : Part → Prop}
    (h : ∀ q ∈ partsOfBranches part ((c, e) :: branches), P q) :
    P (part c) ∧ P (expr e) ∧ ∀ q ∈ partsOfBranches part branches, P q := by
  rw [partsOfBranches, List.flatMap_cons, List.forall_mem_append] at h
  obtain ⟨hbranch, hbranches⟩ := h
  exact ⟨hbranch _ (by simp), hbranch _ (by simp), hbranches⟩

end Part

open Polysql.Part

variable {a b : Bindings}

mutual

/-- The value of an expression depends on the columns that it refers to. -/
theorem Expr.eval_congr : ∀ {e : Expr}, (expr e).ReadsAlike a b → e.eval a = e.eval b
  | .constant _, _ | .asterisk _, _ | .subquery _, _ | .sequence _ _, _ | .columnDefault, _ => rfl
  -- only here a name is looked up; all other cases pass it on from their parts
  | .field n type, h => by
    rw [Expr.eval, Expr.eval, h.field]
  | .arith op l r, h => by
    obtain ⟨hl, hr⟩ : (expr l).ReadsAlike a b ∧ (expr r).ReadsAlike a b := by
      simpa [parts, partsOfExpr] using h.parts
    rw [Expr.eval, Expr.eval, Expr.eval_congr hl, Expr.eval_congr hr]
  | .neg e, h => by
    have he : (expr e).ReadsAlike a b := by simpa [parts, partsOfExpr] using h.parts
    rw [Expr.eval, Expr.eval, Expr.eval_congr he]
  | .bit op l r?, h => by
    obtain ⟨hl, hr⟩ : (expr l).ReadsAlike a b ∧ ∀ e, r? = some e → (expr e).ReadsAlike a b := by
      simpa [parts, partsOfExpr] using h.parts
    rw [Expr.eval, Expr.eval, Expr.eval_congr hl, evalOrNull_congr hr]
  | .call ⟨f, args, distinct, filter?⟩, h => by
    have hcall : (call ⟨f, args, distinct, filter?⟩).ReadsAlike a b := by
      simpa [parts, partsOfExpr] using h.parts
    have hargs : ∀ e ∈ args, (expr e).ReadsAlike a b := fun e he =>
      hcall.parts _ (by simp [parts, he])
    rw [Expr.eval, Expr.eval, evalEach_congr hargs]
  | .caseWhen branches otherwise?, h => by
    obtain ⟨hbranches, hotherwise⟩ : (∀ q ∈ partsOfBranches condition branches, q.ReadsAlike a b) ∧
        ∀ e, otherwise? = some e → (expr e).ReadsAlike a b := by
      simpa [parts, partsOfExpr, or_imp, forall_and] using h.parts
    rw [Expr.eval, Expr.eval, evalOrNull_congr hotherwise, evalBranches_congr _ hbranches]
  | .caseOf operand branches otherwise?, h => by
    obtain ⟨hoperand, hbranches, hotherwise⟩ : (expr operand).ReadsAlike a b ∧
        (∀ q ∈ partsOfBranches expr branches, q.ReadsAlike a b) ∧
        ∀ e, otherwise? = some e → (expr e).ReadsAlike a b := by
      simpa [parts, partsOfExpr, or_imp, forall_and] using h.parts
    rw [Expr.eval, Expr.eval, Expr.eval_congr hoperand, evalOrNull_congr hotherwise]
    exact bind_congr fun v => evalCases_congr v _ hbranches
  | .cast e type, h => by
    have he : (expr e).ReadsAlike a b := by simpa [parts, partsOfExpr] using h.parts
    rw [Expr.eval, Expr.eval, Expr.eval_congr he]
  | .condition c, h => by
    have hc : (condition c).ReadsAlike a b := by simpa [parts, partsOfExpr] using h.parts
    rw [Expr.eval, Expr.eval, Condition.eval_congr hc]

/-- The values of several expressions depend on the columns that these refer to. -/
theorem evalEach_congr : ∀ {es : List Expr}, (∀ e ∈ es, (expr e).ReadsAlike a b) →
    evalEach a es = evalEach b es
  | [], _ => rfl
  | e :: es, h => by
    obtain ⟨he, hes⟩ := List.forall_mem_cons.mp h
    rw [evalEach, evalEach, Expr.eval_congr he, evalEach_congr hes]

theorem evalRows_congr : ∀ {rows : List Row}, (∀ r ∈ rows, ∀ e ∈ r, (expr e).ReadsAlike a b) →
    evalRows a rows = evalRows b rows
  | [], _ => rfl
  | r :: rows, h => by
    obtain ⟨hr, hrows⟩ := List.forall_mem_cons.mp h
    rw [evalRows, evalRows, evalEach_congr hr, evalRows_congr hrows]

theorem evalOrNull_congr : ∀ {e? : Option Expr}, (∀ e, e? = some e → (expr e).ReadsAlike a b) →
    evalOrNull a e? = evalOrNull b e?
  | none, _ => rfl
  | some e, h => by
    rw [evalOrNull, evalOrNull, Expr.eval_congr (h e rfl)]

theorem evalBranches_congr : ∀ {branches : List (Condition × Expr)} (otherwise : Outcome),
    (∀ q ∈ partsOfBranches condition branches, q.ReadsAlike a b) →
      evalBranches a otherwise branches = evalBranches b otherwise branches
  | [], _, _ => rfl
  | (c, e) :: branches, otherwise, h => by
    obtain ⟨hc, he, hbranches⟩ := partsOfBranches_cons h
    rw [evalBranches, evalBranches, Condition.eval_congr hc, Expr.eval_congr he,
      evalBranches_congr otherwise hbranches]

theorem evalCases_congr : ∀ {branches : List (Expr × Expr)} (v : Value) (otherwise : Outcome),
    (∀ q ∈ partsOfBranches expr branches, q.ReadsAlike a b) →
      evalCases a v otherwise branches = evalCases b v otherwise branches
  | [], _, _, _ => rfl
  | (w, e) :: branches, v, otherwise, h => by
    obtain ⟨hw, he, hbranches⟩ := partsOfBranches_cons h
    rw [evalCases, evalCases, Expr.eval_congr hw, Expr.eval_congr he,
      evalCases_congr v otherwise hbranches]

/-- The truth of a condition depends on the columns that it refers to. -/
theorem Condition.eval_congr : ∀ {c : Condition}, (condition c).ReadsAlike a b →
    c.eval a = c.eval b
  | .always, _ | .never, _ | .inSelect _ _ _, _ | .rowInSelect _ _ _, _ | .hasRows _ _, _ => rfl
  | .compare l op r, h => by
    obtain ⟨hl, hr⟩ : (expr l).ReadsAlike a b ∧ (expr r).ReadsAlike a b := by
      simpa [parts, partsOfCondition] using h.parts
    rw [Condition.eval, Condition.eval, Expr.eval_congr hl, Expr.eval_congr hr]
  | .like ⟨text, pattern, negate, ignoreCase, escape?⟩, h => by
    obtain ⟨htext, hpattern⟩ : (expr text).ReadsAlike a b ∧ (expr pattern).ReadsAlike a b := by
      simpa [parts, partsOfCondition] using h.parts
    rw [Condition.eval, Condition.eval, Expr.eval_congr htext, Expr.eval_congr hpattern]
  | .between e low high negate symmetric, h => by
    obtain ⟨he, hlow, hhigh⟩ : (expr e).ReadsAlike a b ∧ (expr low).ReadsAlike a b ∧
        (expr high).ReadsAlike a b := by
      simpa [parts, partsOfCondition] using h.parts
    rw [Condition.eval, Condition.eval, Expr.eval_congr he, Expr.eval_congr hlow,
      Expr.eval_congr hhigh]
  | .inList e list negate, h => by
    obtain ⟨he, hlist⟩ : (expr e).ReadsAlike a b ∧ ∀ e ∈ list, (expr e).ReadsAlike a b := by
      simpa [parts, partsOfCondition] using h.parts
    rw [Condition.eval, Condition.eval, Expr.eval_congr he, evalEach_congr hlist]
  | .isNull e negate, h => by
    have he : (expr e).ReadsAlike a b := by simpa [parts, partsOfCondition] using h.parts
    rw [Condition.eval, Condition.eval, Expr.eval_congr he]
  | .isDistinct l r negate, h => by
    obtain ⟨hl, hr⟩ : (expr l).ReadsAlike a b ∧ (expr r).ReadsAlike a b := by
      simpa [parts, partsOfCondition] using h.parts
    rw [Condition.eval, Condition.eval, Expr.eval_congr hl, Expr.eval_congr hr]
  | .rowCompare left op right, h => by
    obtain ⟨hleft, hright⟩ : (∀ e ∈ left, (expr e).ReadsAlike a b) ∧
        ∀ e ∈ right, (expr e).ReadsAlike a b := by
      simpa [parts, partsOfCondition, or_imp, forall_and] using h.parts
    rw [Condition.eval, Condition.eval, evalEach_congr hleft, evalEach_congr hright]
  | .rowInList row list negate, h => by
    obtain ⟨hrow, hlist⟩ : (∀ e ∈ row, (expr e).ReadsAlike a b) ∧
        ∀ r ∈ list, ∀ e ∈ r, (expr e).ReadsAlike a b := by
      -- the rows of the list and the row itself have their elements side by side
      have hrows : ∀ r ∈ row :: list, ∀ e ∈ r, (expr e).ReadsAlike a b := fun r hr e he =>
        h.parts _ (List.mem_flatMap_of_mem hr (List.mem_map_of_mem he))
      exact List.forall_mem_cons.mp hrows
    rw [Condition.eval, Condition.eval, evalEach_congr hrow, evalRows_congr hlist]
  | .rowIsNull row negate, h => by
    have hrow : ∀ e ∈ row, (expr e).ReadsAlike a b := by
      simpa [parts, partsOfCondition] using h.parts
    rw [Condition.eval, Condition.eval, evalEach_congr hrow]
  | .rowBetween row low high negate symmetric, h => by
    obtain ⟨hrow, hlow, hhigh⟩ : (∀ e ∈ row, (expr e).ReadsAlike a b) ∧
        (∀ e ∈ low, (expr e).ReadsAlike a b) ∧ ∀ e ∈ high, (expr e).ReadsAlike a b := by
      simpa [parts, partsOfCondition, or_imp, forall_and, and_assoc] using h.parts
    rw [Condition.eval, Condition.eval, evalEach_congr hrow, evalEach_congr hlow,
      evalEach_congr hhigh]
  | .not c, h => by
    have hc : (condition c).ReadsAlike a b := by simpa [parts, partsOfCondition] using h.parts
    rw [Condition.eval, Condition.eval, Condition.eval_congr hc]
  | .and cs, h => by
    have hcs : ∀ c ∈ cs, (condition c).ReadsAlike a b := by
      simpa [parts, partsOfCondition] using h.parts
    rw [Condition.eval, Condition.eval, evalAll_congr hcs]
  | .or cs, h => by
    have hcs : ∀ c ∈ cs, (condition c).ReadsAlike a b := by
      simpa [parts, partsOfCondition] using h.parts
    rw [Condition.eval, Condition.eval, evalAll_congr hcs]
  | .xor c d, h => by
    obtain ⟨hc, hd⟩ : (condition c).ReadsAlike a b ∧ (condition d).ReadsAlike a b := by
      simpa [parts, partsOfCondition] using h.parts
    rw [Condition.eval, Condition.eval, Condition.eval_congr hc, Condition.eval_congr hd]
  | .holds e, h => by
    have he : (expr e).ReadsAlike a b := by simpa [parts, partsOfCondition] using h.parts
    rw [Condition.eval, Condition.eval, Expr.eval_congr he]

theorem evalAll_congr : ∀ {cs : List Condition}, (∀ c ∈ cs, (condition c).ReadsAlike a b) →
    evalAll a cs = evalAll b cs
  | [], _ => rfl
  | c :: cs, h => by
    obtain ⟨hc, hcs⟩ := List.forall_mem_cons.mp h
    rw [evalAll, evalAll, Condition.eval_congr hc, evalAll_congr hcs]

end

end Polysql

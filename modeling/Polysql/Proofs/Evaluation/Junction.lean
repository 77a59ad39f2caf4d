import Mathlib.Tactic.Lemma
import Polysql.Evaluation
import Polysql.Proofs.Outcome
/-!
The truth of conjunctions and disjunctions, however they are built. Conjunction and disjunction of
truths are associative over lists (`Truth.all_append`, `Truth.any_append`), so a condition that
`both`, `either`, `all` or `any` builds flat is as true as the tree of its operands (`eval_both`,
`eval_either`, `eval_all`, `eval_any`), and fails where the first failing operand does.
-/

namespace Polysql

/-! ### Truths -/

namespace Truth

lemma all_cons (t : Truth) (ts : List Truth) : all (t :: ts) = all [t, all ts] := by
  simp only [all]
  by_cases hf : some false ∈ ts <;> by_cases hn : none ∈ ts <;> rcases t with _ | _ | _ <;>
    simp [hf, hn]

lemma any_cons (t : Truth) (ts : List Truth) : any (t :: ts) = any [t, any ts] := by
  simp only [any]
  by_cases ht : some true ∈ ts <;> by_cases hn : none ∈ ts <;> rcases t with _ | _ | _ <;>
    simp [ht, hn]

@[simp] lemma all_nil : all [] = some true := rfl

@[simp] lemma any_nil : any [] = some false := rfl

@[simp] lemma all_singleton (t : Truth) : all [t] = t := by
  rcases t with _ | _ | _ <;> rfl

@[simp] lemma any_singleton (t : Truth) : any [t] = t := by
  rcases t with _ | _ | _ <;> rfl

lemma all_assoc (r s t : Truth) : all [all [r, s], t] = all [r, all [s, t]] := by
  rcases r with _ | _ | _ <;> rcases s with _ | _ | _ <;> rcases t with _ | _ | _ <;> rfl

lemma any_assoc (r s t : Truth) : any [any [r, s], t] = any [r, any [s, t]] := by
  rcases r with _ | _ | _ <;> rcases s with _ | _ | _ <;> rcases t with _ | _ | _ <;> rfl

lemma all_append (ts us : List Truth) : all (ts ++ us) = all [all ts, all us] := by
  induction ts with
  | nil => rcases h : all us with _ | _ | _ <;> simp [h] <;> rfl
  | cons t ts ih => rw [List.cons_append, all_cons, ih, all_cons t ts, all_assoc]

lemma any_append (ts us : List Truth) : any (ts ++ us) = any [any ts, any us] := by
  induction ts with
  | nil => rcases h : any us with _ | _ | _ <;> simp [h] <;> rfl
  | cons t ts ih => rw [List.cons_append, any_cons, ih, any_cons t ts, any_assoc]

/-- The negation of a disjunction is the conjunction of the negations. -/
lemma not_any (ts : List Truth) : (any ts).not = all (ts.map not) := by
  induction ts with
  | nil => rfl
  | cons t ts ih =>
    rw [any_cons, List.map_cons, all_cons, ← ih]
    rcases t with _ | _ | _ <;> rcases any ts with _ | _ | _ <;> rfl

/-- A conjunction of truths that are known. -/
lemma all_map_some {α : Type} (f : α → Bool) (as : List α) :
    all (as.map fun a => some (f a)) = some (as.all f) := by
  induction as with
  | nil => rfl
  | cons a as ih =>
    rw [List.map_cons, all_cons, ih, List.all_cons]
    cases f a <;> cases as.all f <;> rfl

/-- A disjunction of truths that are known. -/
lemma any_map_some {α : Type} (f : α → Bool) (as : List α) :
    any (as.map fun a => some (f a)) = some (as.any f) := by
  induction as with
  | nil => rfl
  | cons a as ih =>
    rw [List.map_cons, any_cons, ih, List.any_cons]
    cases f a <;> cases as.any f <;> rfl

/-- A conjunction is true if all of its operands are. -/
lemma all_eq_true {ts : List Truth} : all ts = some true ↔ ∀ t ∈ ts, t = some true := by
  induction ts with
  | nil => simp
  | cons t ts ih =>
    rw [all_cons, List.forall_mem_cons, ← ih]
    rcases t with _ | _ | _ <;> rcases all ts with _ | _ | _ <;> decide

/-- A disjunction is true if one of its operands is. -/
lemma any_eq_true {ts : List Truth} : any ts = some true ↔ some true ∈ ts := by
  rw [any]
  by_cases ht : some true ∈ ts <;> by_cases hn : none ∈ ts <;> simp [ht, hn]

end Truth

/-! ### Junctions of conditions -/

/-- A connective of any number of conditions. -/
inductive Connective where
  | and
  | or

/-- The conditions joined by a connective. -/
def Connective.join : Connective → List Condition → Condition
  | and, cs => .and cs
  | or, cs => .or cs

section

variable (columns : Bindings)

lemma evalAll_nil : evalAll columns [] = .ok [] := rfl

lemma evalAll_cons (c : Condition) (cs : List Condition) :
    evalAll columns (c :: cs) = do
      let t ← c.eval columns
      let ts ← evalAll columns cs
      return t :: ts := rfl

lemma evalAll_append (cs ds : List Condition) :
    evalAll columns (cs ++ ds) = do
      let ts ← evalAll columns cs
      let us ← evalAll columns ds
      return ts ++ us := by
  induction cs with
  | nil => simp [evalAll]
  | cons c cs ih =>
    rw [List.cons_append, evalAll_cons, ih, evalAll_cons]
    cases c.eval columns <;> cases evalAll columns cs <;> cases evalAll columns ds <;> rfl

namespace Condition

lemma eval_and (cs : List Condition) :
    (and cs).eval columns = (evalAll columns cs).map Truth.all := by
  change (do return Truth.all (← evalAll columns cs)) = _
  cases evalAll columns cs <;> rfl

lemma eval_or (cs : List Condition) :
    (or cs).eval columns = (evalAll columns cs).map Truth.any := by
  change (do return Truth.any (← evalAll columns cs)) = _
  cases evalAll columns cs <;> rfl

lemma eval_not (c : Condition) : (not c).eval columns = (c.eval columns).map Truth.not := by
  change (do return (← c.eval columns).not) = _
  cases c.eval columns <;> rfl

/-- The conjunction of the conditions in a tree. -/
lemma eval_and_append (cs ds : List Condition) :
    (and (cs ++ ds)).eval columns = do
      let s ← (and cs).eval columns
      let t ← (and ds).eval columns
      return Truth.all [s, t] := by
  simp only [eval_and, evalAll_append]
  cases evalAll columns cs <;> cases evalAll columns ds <;> simp [Truth.all_append]

/-- The disjunction of the conditions in a tree. -/
lemma eval_or_append (cs ds : List Condition) :
    (or (cs ++ ds)).eval columns = do
      let s ← (or cs).eval columns
      let t ← (or ds).eval columns
      return Truth.any [s, t] := by
  simp only [eval_or, evalAll_append]
  cases evalAll columns cs <;> cases evalAll columns ds <;> simp [Truth.any_append]

@[simp] lemma eval_and_singleton (c : Condition) : (and [c]).eval columns = c.eval columns := by
  rw [eval_and, evalAll_cons, evalAll_nil]
  cases c.eval columns <;> simp

@[simp] lemma eval_or_singleton (c : Condition) : (or [c]).eval columns = c.eval columns := by
  rw [eval_or, evalAll_cons, evalAll_nil]
  cases c.eval columns <;> simp

lemma eval_and_nil : (and []).eval columns = .ok (some true) := by
  rw [eval_and]; rfl

lemma eval_or_nil : (or []).eval columns = .ok (some false) := by
  rw [eval_or]; rfl

lemma eval_always : always.eval columns = .ok (some true) := rfl

lemma eval_never : never.eval columns = .ok (some false) := rfl

/-- A conjunction that is built flat is as true as the pair of its operands. -/
theorem eval_both (c d : Condition) :
    (both c d).eval columns = (and [c, d]).eval columns := by
  have hpair : (and [c, d]).eval columns = do
      let s ← c.eval columns
      let t ← d.eval columns
      return Truth.all [s, t] := by
    simpa using eval_and_append columns [c] [d]
  rw [hpair]
  rw [both.eq_def]
  -- a neutral condition is dropped, and a list takes the other one in
  split
  · simp only [eval_always, pure, bind, Except.pure, Except.bind]
    rcases d.eval columns with _ | (_ | _ | _) <;> rfl
  · simp only [eval_always, pure, bind, Except.pure, Except.bind]
    rcases c.eval columns with _ | (_ | _ | _) <;> rfl
  · exact eval_and_append columns _ _
  · simpa using eval_and_append columns _ [d]
  · simpa using eval_and_append columns [c] _
  · exact hpair

/-- A disjunction that is built flat is as true as the pair of its operands. -/
theorem eval_either (c d : Condition) :
    (either c d).eval columns = (or [c, d]).eval columns := by
  have hpair : (or [c, d]).eval columns = do
      let s ← c.eval columns
      let t ← d.eval columns
      return Truth.any [s, t] := by
    simpa using eval_or_append columns [c] [d]
  rw [hpair]
  rw [either.eq_def]
  split
  · simp only [eval_never, pure, bind, Except.pure, Except.bind]
    rcases d.eval columns with _ | (_ | _ | _) <;> rfl
  · simp only [eval_never, pure, bind, Except.pure, Except.bind]
    rcases c.eval columns with _ | (_ | _ | _) <;> rfl
  · exact eval_or_append columns _ _
  · simpa using eval_or_append columns _ [d]
  · simpa using eval_or_append columns [c] _
  · exact hpair

/-- All conditions of a list, built flat from the left. -/
theorem eval_all (cs : List Condition) : (all cs).eval columns = (and cs).eval columns := by
  have key : ∀ (cs : List Condition) (c : Condition),
      (cs.foldl both c).eval columns = (and (c :: cs)).eval columns := by
    intro cs
    induction cs with
    | nil => simp
    | cons d ds ih =>
      intro c
      rw [List.foldl_cons, ih, ← List.singleton_append, eval_and_append, eval_and_singleton,
        eval_both, ← eval_and_append]
      rfl
  rw [all, key, ← List.singleton_append, eval_and_append, eval_and_singleton, eval_always]
  rcases (and cs).eval columns with _ | (_ | _ | _) <;> rfl

/-- One of the conditions of a list, built flat from the left. -/
theorem eval_any (cs : List Condition) : (any cs).eval columns = (or cs).eval columns := by
  have key : ∀ (cs : List Condition) (c : Condition),
      (cs.foldl either c).eval columns = (or (c :: cs)).eval columns := by
    intro cs
    induction cs with
    | nil => simp
    | cons d ds ih =>
      intro c
      rw [List.foldl_cons, ih, ← List.singleton_append, eval_or_append, eval_or_singleton,
        eval_either, ← eval_or_append]
      rfl
  rw [any, key, ← List.singleton_append, eval_or_append, eval_or_singleton, eval_never]
  rcases (or cs).eval columns with _ | (_ | _ | _) <;> rfl

end Condition

end

end Polysql

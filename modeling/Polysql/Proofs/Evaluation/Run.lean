import Polysql.Proofs.Evaluation.Overflow
import Polysql.Proofs.Rank.Query
/-!
Evaluation step by step. An operation that is derived from others is evaluated as the larger tree
that spells it out, so evaluation is no recursion on the tree, and a run of it is not known to end.
A step (`Evaluators.next`) evaluates parts of a formula or its rewritten form, and looks columns up
in an input that this may change. It goes on with formulas of lower rank only: whatever relation of
runs goes through sequencing, if it holds for the formulas below a rank, then after a step it holds
for the formulas of that rank (`Evaluators.next_related`). The relations are those of the members of
a family of runs. This is used of equal runs, of runs that end, and of runs of which one panics.
-/

namespace Polysql

/-- What is evaluated. -/
inductive Formula where
  | expr (e : Expr)
  | condition (c : Condition)

namespace Formula

/-- The rank of a formula. -/
def rank : Formula → Nat
  | expr e => e.rank
  | condition c => c.rank

lemma one_le_rank (p : Formula) : 1 ≤ p.rank := by
  cases p with
  | expr e => exact e.one_le_rank
  | condition c => exact c.one_le_rank

/-- What the evaluation of a formula yields. -/
def Result : Formula → Type
  | expr _ => Value
  | condition _ => Truth

/-- The rewritten form in whose place a formula is evaluated: it is spelled out by other
operations, and operands may occur in it more than once. -/
inductive Rewrites : Formula → Formula → Prop
  | bit {op : BitOp} {a : Expr} {b? : Option Expr} {e : Expr} :
    Expr.expandBit op a b? = some e → Rewrites (expr (.bit op a b?)) (expr e)
  | between {e low high : Expr} {negate symmetric : Bool} {c : Condition} :
    Condition.expandBetween e low high negate symmetric = some c →
      Rewrites (condition (.between e low high negate symmetric)) (condition c)
  | rowCompare {left right : Row} {op : CompareOp} {c : Condition} :
    Condition.expandRowCompare left op right = .ok c →
      Rewrites (condition (.rowCompare left op right)) (condition c)
  | rowInList {row : Row} {list : List Row} {negate : Bool} {c : Condition} :
    Condition.expandRowIn row list negate = .ok c →
      Rewrites (condition (.rowInList row list negate)) (condition c)
  | rowIsNull (row : Row) (negate : Bool) :
    Rewrites (condition (.rowIsNull row negate)) (condition (.expandRowIsNull row negate))
  | rowBetween {row low high : Row} {negate symmetric : Bool} {c : Condition} :
    Condition.expandRowBetween row low high negate symmetric = .ok c →
      Rewrites (condition (.rowBetween row low high negate symmetric)) (condition c)

end Formula

/-! ### Runs -/

/-- What an evaluation looks columns up in. It may be changed by that. -/
structure Input (σ : Type) where
  resolve : σ → Name → Option Value × σ

/-- A run of an evaluation: its outcome and the input after it, or nothing if it has no end. -/
abbrev Run (σ α : Type) := ExceptT Failure (StateT σ Option) α

variable {σ α β : Type}

/-- The columns have values that stay as they are. -/
def Input.ofBindings (columns : Bindings) : Input σ :=
  ⟨fun state name => (columns name, state)⟩

namespace Run

/-- What a run comes to from a state of the input. -/
def on (run : Run σ α) (state : σ) : Option (Evaluated α × σ) :=
  run.run.run state

lemma ext {x y : Run σ α} (h : ∀ state, x.on state = y.on state) : x = y :=
  funext h

/-- A run that only has an outcome. -/
def ofExcept (outcome : Evaluated α) : Run σ α :=
  ExceptT.mk (pure outcome)

/-- A run without an end. -/
def endless : Run σ α :=
  ExceptT.mk (StateT.mk fun _ => none)

/-- The run comes to an end, whatever the input is. -/
def Ends (run : Run σ α) : Prop :=
  ∀ state, ∃ outcome state', run.on state = some (outcome, state')

/-- From a state, the run yields a value or returns an error. -/
def Returns (run : Run σ α) (state : σ) : Prop :=
  ∃ outcome state', run.on state = some (outcome, state') ∧ outcome.Returns

/-- From a state, the run panics. -/
def Panics (run : Run σ α) (state : σ) (message : String) : Prop :=
  ∃ state', run.on state = some (.error (.panic message), state')

lemma Ends.returns_iff {run : Run σ α} (h : run.Ends) (state : σ) :
    run.Returns state ↔ ∀ message, ¬ run.Panics state message := by
  obtain ⟨outcome, state', hrun⟩ := h state
  rw [Returns, hrun]
  constructor
  · rintro ⟨_, _, ⟨⟩, hreturns⟩ message ⟨_, hpanic⟩
    rw [hrun] at hpanic
    cases hpanic
    exact hreturns message rfl
  · refine fun hno => ⟨outcome, state', rfl, fun message hpanic => hno message ⟨state', ?_⟩⟩
    rw [hrun, hpanic]

/-! ### Sequencing -/

lemma on_ofExcept (outcome : Evaluated α) (state : σ) :
    (ofExcept outcome : Run σ α).on state = some (outcome, state) := rfl

lemma on_bind (x : Run σ α) (f : α → Run σ β) (state : σ) :
    (x >>= f).on state = (x.on state).bind fun r => (ExceptT.bindCont f r.1).run r.2 := rfl

section

variable {x : Run σ α} {f : α → Run σ β} {state state' : σ}

lemma on_bind_of_none (h : x.on state = none) : (x >>= f).on state = none := by
  rw [on_bind, h]
  rfl

lemma on_bind_of_error {e : Failure} (h : x.on state = some (.error e, state')) :
    (x >>= f).on state = some (.error e, state') := by
  rw [on_bind, h]
  rfl

lemma on_bind_of_ok {a : α} (h : x.on state = some (.ok a, state')) :
    (x >>= f).on state = (f a).on state' := by
  rw [on_bind, h]
  rfl

/-- What panics does so before or after its first part has a value. -/
lemma panics_bind_iff {message : String} : (x >>= f).Panics state message ↔
    x.Panics state message ∨
      ∃ a state', x.on state = some (.ok a, state') ∧ (f a).Panics state' message := by
  match h : x.on state with
  | none => simp [Panics, on_bind_of_none h, h]
  | some (.error e, _) => simp [Panics, on_bind_of_error h, h]
  | some (.ok a, _) => simp [Panics, on_bind_of_ok h, h]

end

lemma ofExcept_bind (x : Evaluated α) (f : α → Evaluated β) :
    (ofExcept x >>= fun a => ofExcept (f a) : Run σ β) = ofExcept (x >>= f) := by
  cases x <;> rfl

lemma ofExcept_mapM (f : α → Evaluated β) (as : List α) :
    (as.mapM fun a => (ofExcept (f a) : Run σ β)) = ofExcept (as.mapM f) := by
  induction as with
  | nil => rfl
  | cons a as ih =>
    rw [List.mapM_cons, List.mapM_cons, ih]
    cases f a with
    | error e => rfl
    | ok b => cases as.mapM f <;> rfl

lemma ofExcept_ne_endless [Nonempty σ] (outcome : Evaluated α) :
    (ofExcept outcome : Run σ α) ≠ endless := by
  intro h
  obtain ⟨state⟩ := ‹Nonempty σ›
  exact nomatch (congrFun h state : some (outcome, state) = none)

lemma ends_ofExcept (outcome : Evaluated α) : (ofExcept outcome : Run σ α).Ends :=
  fun state => ⟨outcome, state, rfl⟩

lemma panics_ofExcept_iff {outcome : Evaluated α} {state : σ} {message : String} :
    (ofExcept outcome : Run σ α).Panics state message ↔ outcome = .error (.panic message) := by
  rw [Panics, on_ofExcept]
  constructor
  · rintro ⟨state', hpanic⟩
    exact congrArg Prod.fst (Option.some.inj hpanic)
  · rintro rfl
    exact ⟨state, rfl⟩

lemma Ends.bind {x : Run σ α} {f : α → Run σ β} (hx : x.Ends) (hf : ∀ a, (f a).Ends) :
    (x >>= f).Ends := by
  intro state
  obtain ⟨outcome, state', hrun⟩ := hx state
  cases outcome with
  | error e => exact ⟨.error e, state', on_bind_of_error hrun⟩
  | ok a =>
    rw [on_bind_of_ok hrun]
    exact hf a state'

end Run

/-- The value of a column. -/
def Input.ask (input : Input σ) (name : Name) : Run σ Value :=
  ExceptT.mk (StateT.mk fun state =>
    let (value?, state') := input.resolve state name
    some (value?.elim (refuse ("no value for field `" ++ name.text ++ "`")) .ok, state'))

lemma Input.ends_ask (input : Input σ) (name : Name) : (input.ask name).Ends :=
  fun state => ⟨_, (input.resolve state name).2, rfl⟩

lemma Input.not_panics_ask (input : Input σ) (name : Name) (state : σ) (message : String) :
    ¬ (input.ask name).Panics state message := by
  rintro ⟨state', hpanic⟩
  have houtcome := congrArg Prod.fst (Option.some.inj hpanic)
  change (input.resolve state name).1.elim (refuse _) Except.ok = _ at houtcome
  cases hv : (input.resolve state name).1 with
  | none =>
    rw [hv] at houtcome
    cases houtcome
  | some v =>
    rw [hv] at houtcome
    cases houtcome

/-! ### One step -/

/-- The runs of all formulas. -/
structure Evaluators (σ : Type) where
  expr : Expr → Run σ Value
  condition : Condition → Run σ Truth

namespace Evaluators

/-- The run of a formula. -/
def run (w : Evaluators σ) : (p : Formula) → Run σ p.Result
  | .expr e => w.expr e
  | .condition c => w.condition c

section

variable (input : Input σ) (w : Evaluators σ)

/-- The value of an expression that may be absent; NULL if it is. -/
def orNull : Option Expr → Run σ Value
  | none => .ofExcept (.ok .null)
  | some e => w.expr e

/-- The value of the first branch whose condition is true, or `otherwise`. -/
def branches (otherwise : Run σ Value) : List (Condition × Expr) → Run σ Value
  | [] => otherwise
  | (c, e) :: rest => do
    if (← w.condition c) = some true then w.expr e else branches otherwise rest

/-- The value of the first branch that is equal to a value, or `otherwise`. -/
def cases (v : Value) (otherwise : Run σ Value) : List (Expr × Expr) → Run σ Value
  | [] => otherwise
  | (u, e) :: rest => do
    if v.equal? (← w.expr u) = some true then w.expr e else cases v otherwise rest

/-- The value of an expression by means of the runs of what it leads to. -/
def stepExpr : Expr → Run σ Value
  | .constant c => .ofExcept (.ok c.value)
  | .field name _ => input.ask name
  | .asterisk _ => .ofExcept (refuse "cannot evaluate `*`")
  | .arith op a b => do
    let v ← w.expr a
    let u ← w.expr b
    .ofExcept (v.arith op u)
  | .neg e => do .ofExcept (← w.expr e).negate
  | .bit op a b? =>
    match Expr.expandBit op a b? with
    | some e => w.expr e
    | none => do
      let v ← w.expr a
      let u ← w.orNull b?
      .ofExcept (Value.bit op v u)
  | .call ⟨f, args, _, _⟩ =>
    if f.isAggregate then
      .ofExcept (refuse ("cannot evaluate aggregate `" ++ f.name ++ "`"))
    else do
      .ofExcept (f.apply (← args.mapM w.expr))
  | .caseWhen branches otherwise? => w.branches (w.orNull otherwise?) branches
  | .caseOf operand branches otherwise? => do
    w.cases (← w.expr operand) (w.orNull otherwise?) branches
  | .cast e type => do .ofExcept ((← w.expr e).cast type)
  | .condition c => do .ofExcept (.ok (← w.condition c).toValue)
  | .subquery _ => .ofExcept (refuse "cannot evaluate a subquery")
  | .sequence _ _ => .ofExcept (refuse "cannot evaluate a sequence")
  | .columnDefault => .ofExcept (refuse "cannot evaluate DEFAULT")

/-- The truth of a condition by means of the runs of what it leads to. -/
def stepCondition : Condition → Run σ Truth
  | .always => .ofExcept (.ok (some true))
  | .never => .ofExcept (.ok (some false))
  | .compare a op b => do
    let v ← w.expr a
    let u ← w.expr b
    .ofExcept (.ok (Truth.compare v op u))
  | .like l => do
    let v ← w.expr l.text
    let u ← w.expr l.pattern
    .ofExcept (Truth.like l v u)
  | .between e low high negate symmetric =>
    match Condition.expandBetween e low high negate symmetric with
    | some c => w.condition c
    | none => do
      let v ← w.expr e
      let l ← w.expr low
      let h ← w.expr high
      .ofExcept (.ok (Truth.negateIf negate (Truth.within v l h)))
  | .inList e list negate => do
    let v ← w.expr e
    .ofExcept (.ok (Truth.inList v (← list.mapM w.expr) negate))
  | .isNull e negate => do .ofExcept (.ok (some ((← w.expr e).isNull != negate)))
  | .isDistinct a b negate => do
    let v ← w.expr a
    let u ← w.expr b
    .ofExcept (.ok (some ((!v.notDistinct u) != negate)))
  | .rowCompare left op right => do
    w.condition (← Run.ofExcept (.ofExcept (Condition.expandRowCompare left op right)))
  | .rowInList row list negate => do
    w.condition (← Run.ofExcept (.ofExcept (Condition.expandRowIn row list negate)))
  | .rowIsNull row negate => w.condition (Condition.expandRowIsNull row negate)
  | .rowBetween row low high negate symmetric => do
    w.condition (← Run.ofExcept (.ofExcept
      (Condition.expandRowBetween row low high negate symmetric)))
  | .inSelect _ _ _ | .rowInSelect _ _ _ | .hasRows _ _ =>
    .ofExcept (refuse "cannot evaluate a subquery")
  | .not c => do .ofExcept (.ok (← w.condition c).not)
  | .and cs => do .ofExcept (.ok (Truth.all (← cs.mapM w.condition)))
  | .or cs => do .ofExcept (.ok (Truth.any (← cs.mapM w.condition)))
  | .xor c d => do
    let s ← w.condition c
    let t ← w.condition d
    .ofExcept (.ok (s.xor t))
  | .holds e => do .ofExcept (Truth.ofValue (← w.expr e))

/-- The runs of all formulas, by means of the runs of what they lead to. -/
def next : Evaluators σ :=
  ⟨w.stepExpr input, w.stepCondition⟩

lemma next_expr (e : Expr) : (w.next input).expr e = w.stepExpr input e := rfl

lemma next_condition (c : Condition) : (w.next input).condition c = w.stepCondition c := rfl

end

/-! ### What a step depends on -/

/-- Some formulas have the same runs. -/
def Agree (some : Formula → Prop) (w w' : Evaluators σ) : Prop :=
  ∀ p, some p → w.run p = w'.run p

/-- The runs of some formulas are related: those of each formula in a family of evaluators. -/
def Related {ι : Type} (R : (α : Type) → (ι → Run σ α) → Prop) (some : Formula → Prop)
    (w : ι → Evaluators σ) : Prop :=
  ∀ p, some p → R p.Result fun i => (w i).run p

end Evaluators

/-- A relation of runs that goes through every step of an evaluation: it holds of an outcome that is
no panic and of the value of a column, which are the same all over the family, and where it holds it
can be followed by what it holds of. -/
structure Run.Respected {ι : Type} (input : Input σ) (R : (α : Type) → (ι → Run σ α) → Prop) :
    Prop where
  ofExcept {α : Type} {outcome : Evaluated α} : outcome.Returns → R α fun _ => .ofExcept outcome
  ask (name : Name) : R Value fun _ => input.ask name
  bind {α β : Type} {x : ι → Run σ α} {f : ι → α → Run σ β} :
    R α x → (∀ a, R β fun i => f i a) → R β fun i => x i >>= f i

namespace Evaluators

open Evaluated

section

variable {ι : Type} {input : Input σ} {R : (α : Type) → (ι → Run σ α) → Prop}
  {w : ι → Evaluators σ} {n : Nat} (hR : Run.Respected input R)
  (h : Related R (fun p => p.rank < n) w)

include hR in
lemma mapM_related {f : ι → α → Run σ β} {as : List α} (hf : ∀ a ∈ as, R β fun i => f i a) :
    R (List β) fun i => as.mapM (f i) := by
  induction as with
  | nil => exact hR.ofExcept (returns_ok [])
  | cons a as ih =>
    obtain ⟨ha, has⟩ := List.forall_mem_cons.mp hf
    simp only [List.mapM_cons]
    exact hR.bind ha fun b => hR.bind (ih has) fun bs => hR.ofExcept (returns_ok (b :: bs))

include h in
lemma Related.expr_lt {e : Expr} (he : e.rank < n) : R Value fun i => (w i).expr e :=
  h (.expr e) he

include h in
lemma Related.condition_lt {c : Condition} (hc : c.rank < n) : R Truth fun i => (w i).condition c :=
  h (.condition c) hc

include hR h

lemma exprs_related {es : List Expr} (hes : rankOfExprs es < n) :
    R (List Value) fun i => es.mapM (w i).expr :=
  mapM_related hR fun _ he => h.expr_lt (Nat.lt_of_le_of_lt (rank_le_rankOfExprs he) hes)

lemma conditions_related {cs : List Condition} (hcs : rankOfConditions cs < n) :
    R (List Truth) fun i => cs.mapM (w i).condition :=
  mapM_related hR fun _ hc => h.condition_lt (Nat.lt_of_le_of_lt (rank_le_rankOfConditions hc) hcs)

lemma orNull_related {e? : Option Expr} (he : rankOfOption e? < n) :
    R Value fun i => (w i).orNull e? := by
  cases e? with
  | none => exact hR.ofExcept (returns_ok Value.null)
  | some e => exact h.expr_lt he

lemma branches_related {otherwise : ι → Run σ Value} (ho : R Value otherwise)
    {bs : List (Condition × Expr)} (hbs : rankOfBranches bs < n) :
    R Value fun i => (w i).branches (otherwise i) bs := by
  induction bs with
  | nil => exact ho
  | cons b bs ih =>
    obtain ⟨c, e⟩ := b
    rw [rankOfBranches_cons] at hbs
    refine hR.bind (h.condition_lt (by omega)) fun t => ?_
    by_cases ht : t = some true
    · simp only [if_pos ht]
      exact h.expr_lt (by omega)
    · simp only [if_neg ht]
      exact ih (by omega)

lemma cases_related (v : Value) {otherwise : ι → Run σ Value} (ho : R Value otherwise)
    {bs : List (Expr × Expr)} (hbs : rankOfCases bs < n) :
    R Value fun i => (w i).cases v (otherwise i) bs := by
  induction bs with
  | nil => exact ho
  | cons b bs ih =>
    obtain ⟨u, e⟩ := b
    rw [rankOfCases] at hbs
    refine hR.bind (h.expr_lt (by omega)) fun t => ?_
    by_cases ht : v.equal? t = some true
    · simp only [if_pos ht]
      exact h.expr_lt (by omega)
    · simp only [if_neg ht]
      exact ih (by omega)

/-- The arguments of a call are of lower rank than the call. -/
lemma args_related {c : Call} (hc : (Expr.call c).rank ≤ n) :
    R (List Value) fun i => c.args.mapM (w i).expr := by
  have hargs := c.rankOfExprs_args_lt
  rw [Expr.rank_call] at hc
  exact exprs_related hR h (Nat.lt_of_lt_of_le hargs (by omega))

/-- The run of an expression is made of runs of formulas of lower rank. A call is left aside: it may
panic by itself. -/
lemma stepExpr_related {e : Expr} (he : e.rank ≤ n) (hcall : ∀ c, e ≠ .call c) :
    R Value fun i => (w i).stepExpr input e := by
  -- every step goes on with parts of lower rank, or with a detour of lower rank, by operations that
  -- do not panic
  cases e with
  | constant => exact hR.ofExcept (returns_ok _)
  | asterisk | subquery | sequence | columnDefault => exact hR.ofExcept (returns_refuse _)
  | field name _ => exact hR.ask name
  | arith op a b =>
    rw [Expr.rank_arith] at he
    exact hR.bind (h.expr_lt (by omega)) fun v => hR.bind (h.expr_lt (by omega)) fun u =>
      hR.ofExcept (v.returns_arith op u)
  | neg e =>
    rw [Expr.rank_neg] at he
    exact hR.bind (h.expr_lt (by omega)) fun v => hR.ofExcept v.returns_negate
  | bit op a b? =>
    cases hexpand : Expr.expandBit op a b? with
    | some e =>
      simp only [stepExpr, hexpand]
      exact h.expr_lt (Nat.lt_of_lt_of_le (Expr.rank_of_expandBit hexpand) he)
    | none =>
      have hpos : 1 ≤ op.height := by cases op <;> decide
      rw [Expr.rank_bit] at he
      simp only [stepExpr, hexpand]
      exact hR.bind (h.expr_lt (by omega)) fun v =>
        hR.bind (orNull_related hR h (by omega)) fun u => hR.ofExcept (v.returns_bit op u)
  | call c => exact absurd rfl (hcall c)
  | caseWhen branches otherwise? =>
    rw [Expr.rank_caseWhen] at he
    exact branches_related hR h (orNull_related hR h (by omega)) (by omega)
  | caseOf operand branches otherwise? =>
    rw [Expr.rank_caseOf] at he
    exact hR.bind (h.expr_lt (by omega)) fun v =>
      cases_related hR h v (orNull_related hR h (by omega)) (by omega)
  | cast e type =>
    rw [Expr.rank_cast] at he
    exact hR.bind (h.expr_lt (by omega)) fun v => hR.ofExcept (v.returns_cast type)
  | condition c =>
    rw [Expr.rank_condition] at he
    exact hR.bind (h.condition_lt (by omega)) fun t => hR.ofExcept (returns_ok _)

/-- The run of a call, where the relation holds of what functions do to values. -/
lemma stepCall_related {c : Call} (hc : (Expr.call c).rank ≤ n)
    (happly : ∀ vs, R Value fun _ => .ofExcept (c.func.apply vs)) :
    R Value fun i => (w i).stepExpr input (.call c) := by
  obtain ⟨f, args, distinct, filter?⟩ := c
  by_cases hf : f.isAggregate
  · simp only [stepExpr, if_pos hf]
    exact hR.ofExcept (returns_refuse _)
  · simp only [stepExpr, if_neg hf]
    exact hR.bind (args_related hR h hc) happly

/-- A detour that is there is evaluated in the place of a condition. -/
lemma detour_related {x : Except Error Condition} (hx : ∀ c, x = .ok c → c.rank < n) :
    R Truth fun i => Run.ofExcept (.ofExcept x) >>= (w i).condition := by
  cases x with
  | error e => exact hR.ofExcept (returns_ofExcept (.error e))
  | ok c => exact h.condition_lt (hx c rfl)

/-- The run of a condition is made of runs of formulas of lower rank. -/
lemma stepCondition_related {c : Condition} (hc : c.rank ≤ n) :
    R Truth fun i => (w i).stepCondition c := by
  -- as for expressions; the rewrites of rows may be refused, and are of lower rank where they are
  -- not
  cases c with
  | always | never => exact hR.ofExcept (returns_ok _)
  | inSelect | rowInSelect | hasRows => exact hR.ofExcept (returns_refuse _)
  | compare a op b =>
    rw [Condition.rank_compare] at hc
    exact hR.bind (h.expr_lt (by omega)) fun v => hR.bind (h.expr_lt (by omega)) fun u =>
      hR.ofExcept (returns_ok _)
  | like l =>
    have hlike := Condition.max_rank_lt_like l
    exact hR.bind (h.expr_lt (by omega)) fun v => hR.bind (h.expr_lt (by omega)) fun u =>
      hR.ofExcept (Truth.returns_like l v u)
  | between e low high negate symmetric =>
    cases hexpand : Condition.expandBetween e low high negate symmetric with
    | some c =>
      simp only [stepCondition, hexpand]
      exact h.condition_lt (Nat.lt_of_lt_of_le (Condition.rank_of_expandBetween hexpand) hc)
    | none =>
      have hpos : 1 ≤ if symmetric then 3 else 1 := by cases symmetric <;> decide
      rw [Condition.rank_between] at hc
      simp only [stepCondition, hexpand]
      exact hR.bind (h.expr_lt (by omega)) fun v => hR.bind (h.expr_lt (by omega)) fun l =>
        hR.bind (h.expr_lt (by omega)) fun u => hR.ofExcept (returns_ok _)
  | inList e list negate =>
    rw [Condition.rank_inList] at hc
    exact hR.bind (h.expr_lt (by omega)) fun v =>
      hR.bind (exprs_related hR h (by omega)) fun vs => hR.ofExcept (returns_ok _)
  | isNull e negate =>
    rw [Condition.rank_isNull] at hc
    exact hR.bind (h.expr_lt (by omega)) fun v => hR.ofExcept (returns_ok _)
  | isDistinct a b negate =>
    rw [Condition.rank_isDistinct] at hc
    exact hR.bind (h.expr_lt (by omega)) fun v => hR.bind (h.expr_lt (by omega)) fun u =>
      hR.ofExcept (returns_ok _)
  | rowCompare left op right =>
    exact detour_related hR h fun c hexpand =>
      Nat.lt_of_lt_of_le (Condition.rank_of_expandRowCompare hexpand) hc
  | rowInList row list negate =>
    exact detour_related hR h fun c hexpand =>
      Nat.lt_of_lt_of_le (Condition.rank_of_expandRowIn hexpand) hc
  | rowIsNull row negate =>
    exact h.condition_lt (Nat.lt_of_lt_of_le (Condition.rank_expandRowIsNull row negate) hc)
  | rowBetween row low high negate symmetric =>
    exact detour_related hR h fun c hexpand =>
      Nat.lt_of_lt_of_le (Condition.rank_of_expandRowBetween hexpand) hc
  | not c =>
    rw [Condition.rank_not] at hc
    exact hR.bind (h.condition_lt (by omega)) fun t => hR.ofExcept (returns_ok _)
  | and cs =>
    rw [Condition.rank_and] at hc
    exact hR.bind (conditions_related hR h (by omega)) fun ts => hR.ofExcept (returns_ok _)
  | or cs =>
    rw [Condition.rank_or] at hc
    exact hR.bind (conditions_related hR h (by omega)) fun ts => hR.ofExcept (returns_ok _)
  | xor c d =>
    rw [Condition.rank_xor] at hc
    exact hR.bind (h.condition_lt (by omega)) fun s => hR.bind (h.condition_lt (by omega)) fun t =>
      hR.ofExcept (returns_ok _)
  | holds e =>
    rw [Condition.rank_holds] at hc
    exact hR.bind (h.expr_lt (by omega)) fun v => hR.ofExcept (Truth.returns_ofValue v)

/-- **One step.** What relates the runs of all formulas below a rank, and holds of what functions do
to values, relates after a step the runs of the formulas of that rank too. -/
theorem next_related (happly : ∀ (f : Func) (vs : List Value), R Value fun _ =>
    .ofExcept (f.apply vs)) : Related R (fun p => p.rank ≤ n) fun i => (w i).next input := by
  intro p hp
  cases p with
  | condition c => exact stepCondition_related hR h hp
  | expr e =>
    by_cases hcall : ∃ c, e = .call c
    · obtain ⟨c, rfl⟩ := hcall
      exact stepCall_related hR h hp (happly c.func)
    · exact stepExpr_related hR h hp fun c hc => hcall ⟨c, hc⟩

end

/-! ### Equal runs, and runs that end -/

section

variable {input : Input σ}

lemma eq_respected : Run.Respected input fun _ (x : Bool → Run σ _) => x true = x false where
  ofExcept _ := rfl
  ask _ := rfl
  bind hx hf := congrArg₂ (· >>= ·) hx (funext hf)

lemma ends_respected : Run.Respected input fun _ (x : Unit → Run σ _) => (x ()).Ends where
  ofExcept _ := Run.ends_ofExcept _
  ask := input.ends_ask
  bind hx hf := hx.bind hf

/-- A step that goes on with the same runs is the same. -/
lemma next_agree {w w' : Evaluators σ} {n : Nat} (h : Agree (fun p => p.rank < n) w w') :
    Agree (fun p => p.rank ≤ n) (w.next input) (w'.next input) :=
  next_related (w := fun i => cond i w w') eq_respected h fun _ _ => rfl

/-- A step that goes on with runs that end does so. -/
lemma next_ends {w : Evaluators σ} {n : Nat} (h : ∀ p : Formula, p.rank < n → (w.run p).Ends)
    (p : Formula) (hp : p.rank ≤ n) : ((w.next input).run p).Ends :=
  next_related (w := fun _ => w) ends_respected h (fun _ _ => Run.ends_ofExcept _) p hp

end

end Evaluators

end Polysql

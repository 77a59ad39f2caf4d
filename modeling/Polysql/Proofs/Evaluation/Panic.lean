import Mathlib.Logic.Relation
import Polysql.Proofs.Evaluation.Descent
/-!
When evaluation yields a value or returns an error. Every run ends, but it may panic: a function is
called on values on which it overflows (`Func.Overflows`). From there the panic passes on to every
run that depends on the call, and there is no other source of it; so a run returns exactly if no
chain of dependencies leads to such a call (`Evaluators.evaluation_returns_iff`).

That one run depends on another is seen by cutting the other off: nothing comes of it then. Where a
step panics, some of the runs that it goes on with panic, and to cut one of them off leaves nothing
of the step (`Evaluators.exists_dependsOn_of_panics`).
-/

namespace Polysql

open Relation (ReflTransGen)

variable {σ : Type}

/-- A run of which nothing comes from some states. -/
noncomputable def Run.cut {α : Type} (run : Run σ α) (off : σ → Prop) : Run σ α :=
  open Classical in
  ExceptT.mk (StateT.mk fun state => if off state then none else run.on state)

namespace Run

variable {α : Type} {run : Run σ α} {off : σ → Prop} {state : σ}

lemma on_cut_of_off (h : off state) : (run.cut off).on state = none :=
  if_pos h

lemma on_cut_of_not_off (h : ¬ off state) : (run.cut off).on state = run.on state :=
  if_neg h

end Run

namespace Evaluators

/-! ### Dependence from a state -/

/-- The run of a formula from a state depends on that of another from another state: it is not the
same when the latter is changed and everything else stays. -/
def DependsOn (input : Input σ) (w : Evaluators σ) (p q : Formula × σ) : Prop :=
  ∃ w' : Evaluators σ,
    (∀ r : Formula × σ, r ≠ q → (w.run r.1).on r.2 = (w'.run r.1).on r.2) ∧
      ((w.next input).run p.1).on p.2 ≠ ((w'.next input).run p.1).on p.2

/-- A formula is a call, and from a state its arguments have values on which it panics. -/
def OverflowsAt (w : Evaluators σ) (message : String) (p : Formula × σ) : Prop :=
  ∃ (c : Call) (vs : List Value) (state' : σ), p.1 = .expr (.call c) ∧
    (c.args.mapM w.expr).on p.2 = some (.ok vs, state') ∧
      (∀ v ∈ vs, v.isNull = false) ∧ c.func.Overflows vs message

/-- Nothing comes of the run of a formula from a state. -/
noncomputable def cut (w : Evaluators σ) (q : Formula × σ) : Evaluators σ :=
  ⟨fun e => (w.expr e).cut fun state => (.expr e, state) = q,
    fun c => (w.condition c).cut fun state => (.condition c, state) = q⟩

section

variable {input : Input σ} {w : Evaluators σ} {message : String}

lemma run_cut (q : Formula × σ) (p : Formula) :
    (w.cut q).run p = (w.run p).cut fun state => (p, state) = q := by
  cases p <;> rfl

lemma on_run_cut_self (q : Formula × σ) : ((w.cut q).run q.1).on q.2 = none := by
  rw [run_cut]
  exact Run.on_cut_of_off rfl

lemma on_run_cut_of_ne {q r : Formula × σ} (h : r ≠ q) :
    ((w.cut q).run r.1).on r.2 = (w.run r.1).on r.2 := by
  rw [run_cut]
  exact Run.on_cut_of_not_off h

/-- Dependence from states is dependence, so the rank goes down. -/
lemma DependsOn.rank_lt {p q : Formula × σ} (h : DependsOn input w p q) :
    q.1.rank < p.1.rank := by
  obtain ⟨w', hsame, hne⟩ := h
  have hreenters : Reenters input p.1 q.1 := by
    refine ⟨w, w', fun r hr => Run.ext fun state => ?_, fun h => ?_⟩
    · exact hsame (r, state) fun hq => hr (congrArg Prod.fst hq)
    · exact hne (congrArg (Run.on · p.2) (h p.1 rfl))
  exact hreenters.rank_lt

/-! ### A panic passes on -/

variable (input) in
lemma panic_passes_respected : Run.Respected input fun _ (x : Bool → Run σ _) =>
    ∀ state, (x false).on state = (x true).on state ∨ (x true).Panics state message where
  ofExcept _ _ := .inl rfl
  ask _ _ := .inl rfl
  bind {_ _ x f} hx hf := by
    intro state
    change (x false >>= f false).on state = (x true >>= f true).on state ∨
      (x true >>= f true).Panics state message
    obtain hsame | hpanic := hx state
    -- what both have come to so far is one and the same, so they go on with one value
    · match hrun : (x true).on state with
      | none =>
        rw [Run.on_bind_of_none hrun, Run.on_bind_of_none (hsame.trans hrun)]
        exact .inl rfl
      | some (.error e, state') =>
        rw [Run.on_bind_of_error hrun, Run.on_bind_of_error (hsame.trans hrun)]
        exact .inl rfl
      | some (.ok a, state') =>
        rw [Run.on_bind_of_ok hrun, Run.on_bind_of_ok (hsame.trans hrun)]
        exact (hf a state').imp_right fun h =>
          Run.panics_bind_iff.mpr (.inr ⟨a, state', hrun, h⟩)
    · exact .inr (Run.panics_bind_iff.mpr (.inl hpanic))

/-- What depends on a run that panics does so too. -/
lemma DependsOn.panics {p q : Formula × σ} (hw : w.next input = w) (h : DependsOn input w p q)
    (hq : (w.run q.1).Panics q.2 message) : (w.run p.1).Panics p.2 message := by
  obtain ⟨w', hsame, hne⟩ := h
  have hbelow : Related (fun _ (x : Bool → Run σ _) => ∀ state,
      (x false).on state = (x true).on state ∨ (x true).Panics state message)
      (fun r => r.rank < p.1.rank) fun i => cond i w w' := by
    intro r _ state
    by_cases hr : (r, state) = q
    · subst hr
      exact .inr hq
    · exact .inl (hsame (r, state) hr).symm
  have hstep := next_related (panic_passes_respected input) hbelow (fun _ _ _ => .inl rfl) p.1
    (Nat.le_refl _) p.2
  change ((w'.next input).run p.1).on p.2 = ((w.next input).run p.1).on p.2 ∨
    ((w.next input).run p.1).Panics p.2 message at hstep
  rw [hw] at hstep hne
  exact hstep.resolve_left fun h => hne h.symm

/-! ### Where a panic comes from -/

/-- In a family of runs, of which each is cut off at some place: a panic of the whole run is that of
a place, and where it is cut off nothing comes of the run. -/
def Traced (w : Evaluators σ) (message : String) (α : Type)
    (x : Option (Formula × σ) → Run σ α) : Prop :=
  ∀ state, (∀ i, (x i).on state = (x none).on state ∨ (x i).on state = none) ∧
    ((x none).Panics state message → ∃ q : Formula × σ, (w.run q.1).Panics q.2 message ∧
      (x (some q)).on state = none)

variable (input) in
lemma traced_respected : Run.Respected input (Traced w message) where
  ofExcept h state := ⟨fun _ => .inl rfl, fun hpanic =>
    absurd (Run.panics_ofExcept_iff.mp hpanic) (h message)⟩
  ask name state := ⟨fun _ => .inl rfl, fun hpanic =>
    absurd hpanic (input.not_panics_ask name state message)⟩
  bind {_ _ x f} hx hf := by
    -- the panic of a sequence is that of its beginning, or of what goes on with its value
    intro state
    obtain ⟨hcut, hfirst⟩ := hx state
    have hnone (i) (h : (x i).on state = none) : (x i >>= f i).on state = none :=
      Run.on_bind_of_none h
    refine ⟨fun i => (hcut i).elim (fun hsame => ?_) fun h => .inr (hnone i h), fun hpanic => ?_⟩
    · match hrun : (x none).on state with
      | none => exact .inr (hnone i (hsame.trans hrun))
      | some (.error e, state') =>
        rw [Run.on_bind_of_error hrun, Run.on_bind_of_error (hsame.trans hrun)]
        exact .inl rfl
      | some (.ok a, state') =>
        rw [Run.on_bind_of_ok hrun, Run.on_bind_of_ok (hsame.trans hrun)]
        exact (hf a state').1 i
    · obtain hpanic | ⟨a, state', hrun, hpanic⟩ := Run.panics_bind_iff.mp hpanic
      · obtain ⟨q, hq, hqnone⟩ := hfirst hpanic
        exact ⟨q, hq, hnone _ hqnone⟩
      · obtain ⟨q, hq, hqnone⟩ := (hf a state').2 hpanic
        refine ⟨q, hq, (hcut (some q)).elim (fun hsame => ?_) (hnone _)⟩
        exact (Run.on_bind_of_ok (hsame.trans hrun)).trans hqnone

/-- The runs themselves, each cut off where it is to be. -/
lemma related_cut (some_ : Formula → Prop) :
    Related (Traced w message) some_ fun i => i.elim w w.cut := by
  intro p _ state
  refine ⟨fun i => ?_, fun hpanic => ⟨(p, state), hpanic, on_run_cut_self (p, state)⟩⟩
  cases i with
  | none => exact .inl rfl
  | some q =>
    by_cases hq : (p, state) = q
    · subst hq
      exact .inr (on_run_cut_self (p, state))
    · exact .inl (on_run_cut_of_ne hq)

/-- Where cutting off a run leaves nothing of a step that panics, the step depends on that run. -/
lemma dependsOn_of_cut {p q : Formula × σ} (hp : ((w.next input).run p.1).Panics p.2 message)
    (h : (((w.cut q).next input).run p.1).on p.2 = none) : DependsOn input w p q := by
  refine ⟨w.cut q, fun r hr => (on_run_cut_of_ne hr).symm, ?_⟩
  obtain ⟨state', hrun⟩ := hp
  rw [hrun, h]
  exact nofun

/-- A call that panics does so because of its arguments, or it overflows. -/
lemma panics_call {c : Call} {state : σ}
    (hbelow : Related (Traced w message) (fun r => r.rank < (Expr.call c).rank)
      fun i => i.elim w w.cut)
    (hpanic : ((w.next input).run (.expr (.call c))).Panics state message) :
    w.OverflowsAt message (.expr (.call c), state) ∨
      ∃ q, DependsOn input w (.expr (.call c), state) q ∧ (w.run q.1).Panics q.2 message := by
  have hargs := args_related (traced_respected input) hbelow (Nat.le_refl _) state
  obtain ⟨f, args, distinct, filter?⟩ := c
  have hstep (w : Evaluators σ) (hf : ¬ f.isAggregate) :
      (w.next input).expr (.call ⟨f, args, distinct, filter?⟩) =
        (args.mapM w.expr >>= fun vs => .ofExcept (f.apply vs)) :=
    if_neg hf
  have hcall : ((w.next input).expr (.call ⟨f, args, distinct, filter?⟩)).Panics state message :=
    hpanic
  by_cases hf : f.isAggregate
  · have hrefuse : (w.next input).expr (.call ⟨f, args, distinct, filter?⟩) =
        .ofExcept (refuse ("cannot evaluate aggregate `" ++ f.name ++ "`")) := if_pos hf
    rw [hrefuse, Run.panics_ofExcept_iff] at hcall
    cases hcall
  · rw [hstep w hf] at hcall
    -- a panic of the arguments is that of a formula below, and otherwise the function itself panics
    obtain hfirst | ⟨vs, state', hvs, happly⟩ := Run.panics_bind_iff.mp hcall
    · obtain ⟨q, hq, hnone⟩ := hargs.2 hfirst
      have hcut : ((w.cut q).next input).expr (.call ⟨f, args, distinct, filter?⟩) = _ :=
        hstep (w.cut q) hf
      refine .inr ⟨q, dependsOn_of_cut hpanic ?_, hq⟩
      exact (congrArg (Run.on · state) hcut).trans (Run.on_bind_of_none hnone)
    · rw [Run.panics_ofExcept_iff, Func.apply_eq_panic_iff] at happly
      exact .inl ⟨_, vs, state', rfl, hvs, happly⟩

/-- What panics is a call that overflows, or it depends on something that panics. -/
lemma exists_dependsOn_of_panics {p : Formula × σ} (hw : w.next input = w)
    (hp : (w.run p.1).Panics p.2 message) :
    w.OverflowsAt message p ∨ ∃ q, DependsOn input w p q ∧ (w.run q.1).Panics q.2 message := by
  obtain ⟨p, state⟩ := p
  have hbelow : Related (Traced w message) (fun r => r.rank < p.rank) fun i => i.elim w w.cut :=
    related_cut fun r => r.rank < p.rank
  have hpanic : ((w.next input).run p).Panics state message := by rwa [hw]
  -- any step but that of a call goes on with values by operations that do not panic
  have hstep (h : Traced w message p.Result fun i => ((i.elim w w.cut).next input).run p) :
      ∃ q, DependsOn input w (p, state) q ∧ (w.run q.1).Panics q.2 message := by
    obtain ⟨q, hq, hnone⟩ := (h state).2 hpanic
    exact ⟨q, dependsOn_of_cut hpanic hnone, hq⟩
  cases p with
  | condition c =>
    exact .inr (hstep (stepCondition_related (traced_respected input) hbelow (Nat.le_refl _)))
  | expr e =>
    by_cases hcall : ∃ c, e = .call c
    · obtain ⟨c, rfl⟩ := hcall
      exact panics_call hbelow hpanic
    · exact .inr (hstep (stepExpr_related (traced_respected input) hbelow (Nat.le_refl _)
        fun c hc => hcall ⟨c, hc⟩))

/-- A call that overflows panics. -/
lemma OverflowsAt.panics {p : Formula × σ} (hw : w.next input = w) (h : w.OverflowsAt message p) :
    (w.run p.1).Panics p.2 message := by
  obtain ⟨p, state⟩ := p
  obtain ⟨⟨f, args, distinct, filter?⟩, vs, state', rfl, hvs, hoverflows⟩ := h
  have hf : ¬ f.isAggregate := by
    have hmem := hoverflows.2.mem_overflowing
    simp only [Func.overflowing, Func.making, List.mem_append, List.mem_cons, List.not_mem_nil,
      or_false] at hmem
    rcases hmem with (rfl | rfl | rfl) | (rfl | rfl | rfl | rfl) <;> decide
  have hstep : (w.next input).expr (.call ⟨f, args, distinct, filter?⟩) =
      (args.mapM w.expr >>= fun vs => .ofExcept (f.apply vs)) := if_neg hf
  rw [hw] at hstep
  change (w.expr _).Panics state message
  rw [hstep]
  exact Run.panics_bind_iff.mpr
    (.inr ⟨vs, state', hvs, Run.panics_ofExcept_iff.mpr (Func.apply_eq_panic_iff.mpr hoverflows)⟩)

/-- A run panics exactly if it comes to a call that overflows. -/
lemma panics_iff {p : Formula × σ} (hw : w.next input = w) :
    (w.run p.1).Panics p.2 message ↔
      ∃ q, ReflTransGen (DependsOn input w) p q ∧ w.OverflowsAt message q := by
  constructor
  · -- the panic is followed down to where it comes from; the rank bounds the way
    induction hn : p.1.rank using Nat.strong_induction_on generalizing p with
    | _ n ih =>
      intro hp
      obtain hover | ⟨q, hq, hpanic⟩ := exists_dependsOn_of_panics hw hp
      · exact ⟨p, .refl, hover⟩
      · obtain ⟨r, hr, hover⟩ := ih q.1.rank (hn ▸ hq.rank_lt) rfl hpanic
        exact ⟨r, .head hq hr, hover⟩
  · rintro ⟨q, hpath, hover⟩
    induction hpath using ReflTransGen.head_induction_on with
    | refl => exact hover.panics hw
    | head hstep _ ih => exact hstep.panics hw ih

end

/-! ### All together -/

/-- **Evaluation ends, and where it returns.** A step of the evaluation of a formula is decided by
the runs of formulas of lower rank, the rewritten form of the formula among them, so that no chain
of formulas goes on for more steps than the rank of the first one. The equation of all runs has one
solution, as many steps as the rank of a formula reach its run, whatever they start from, and each
run ends, whatever the input is and however it changes. It yields a value or returns an error
exactly if nothing that it depends on is a call that overflows on the values of its arguments; it
panics with the message of such a call. Where the input is the values of columns, the outcome is the
value of the expression or the truth of the condition, and the input stays. -/
theorem evaluation_returns_iff [Nonempty σ] (input : Input σ) :
    (∀ (w w' : Evaluators σ) (n : Nat), Agree (fun p => p.rank < n) w w' →
      Agree (fun p => p.rank ≤ n) (w.next input) (w'.next input)) ∧
    (∀ p q : Formula, p.Rewrites q → Reenters input p q) ∧
    (∀ p q : Formula, Reenters input p q → q.rank < p.rank) ∧
    WellFounded (fun q p : Formula => Reenters input p q) ∧
    (∀ (p : Formula) (ps : List Formula), (p :: ps).IsChain (Reenters input) →
      ps.length < p.rank) ∧
    ∃ w : Evaluators σ, w.next input = w ∧ (∀ w' : Evaluators σ, w'.next input = w' → w' = w) ∧
      (∀ (below : Evaluators σ) (n : Nat), Agree (fun p => p.rank ≤ n) ((next input)^[n] below) w) ∧
      (∀ p, (w.run p).Ends) ∧
      (∀ p state, (w.run p).Returns state ↔ ∀ q message,
        ReflTransGen (DependsOn input w) (p, state) q → ¬ w.OverflowsAt message q) ∧
      (∀ p state message, (w.run p).Panics state message ↔ ∃ q,
        ReflTransGen (DependsOn input w) (p, state) q ∧ w.OverflowsAt message q) ∧
      ∀ columns : Bindings, input = .ofBindings columns →
        (∀ e, w.expr e = .ofExcept (e.eval columns)) ∧
          ∀ c, w.condition c = .ofExcept (c.eval columns) := by
  have hpanics (p : Formula) (state : σ) (message : String) :
      ((ofRank input).run p).Panics state message ↔ ∃ q,
        ReflTransGen (DependsOn input (ofRank input)) (p, state) q ∧
          (ofRank input).OverflowsAt message q :=
    panics_iff (p := (p, state)) (next_ofRank input)
  refine ⟨fun w w' n h => next_agree h,
    fun p q h => reenters_of_rewrites h, fun p q h => h.rank_lt, wellFounded_reenters input,
    fun p ps h => length_lt_rank_of_isChain (fun _ _ h => h.rank_lt) Formula.one_le_rank h,
    ofRank input, next_ofRank input, fun w h => eq_ofRank_of_next input h,
    agree_iterate_ofRank input, ofRank_ends input, fun p state => ?_, hpanics, ?_⟩
  · rw [(ofRank_ends input p).returns_iff]
    simp only [hpanics, not_exists, not_and]
    exact forall_comm
  · rintro columns rfl
    rw [← eq_ofRank_of_next _ (next_ofEval columns)]
    exact ⟨expr_ofEval columns, condition_ofEval columns⟩

/-- A negated exclusive disjunction is evaluated as a larger expression of lower rank, in which
there are bitwise operations again. Nothing that it depends on overflows. -/
theorem evaluation_returns_iff_xnor :
    let e := Expr.bit .xnor .null (some .null)
    let d := Expr.complement (.exclusiveOr .null .null)
    let input : Input Unit := .ofBindings .none_
    Formula.Rewrites (.expr e) (.expr d) ∧ Reenters input (.expr e) (.expr d) ∧
      d.rank < e.rank ∧ sizeOf e < sizeOf d ∧
      ∃ w : Evaluators Unit, w.next input = w ∧ w.expr e = .ofExcept (.ok .null) ∧
        (w.expr e).Returns () ∧ ∀ q message,
          ReflTransGen (DependsOn input w) (.expr e, ()) q → ¬ w.OverflowsAt message q := by
  intro e d input
  have hrewrites : Formula.Rewrites (.expr e) (.expr d) := .bit rfl
  obtain ⟨-, henters, hlt, -, -, w, hnext, -, -, -, hreturns, -, hcolumns⟩ :=
    evaluation_returns_iff input
  have hreenters := henters _ _ hrewrites
  have heval : w.expr e = .ofExcept (.ok .null) := (hcolumns _ rfl).1 e
  have hreturn : (w.expr e).Returns () := by
    rw [heval]
    exact ⟨.ok .null, (), rfl, Evaluated.returns_ok _⟩
  exact ⟨hrewrites, hreenters, hlt _ _ hreenters, by decide, w, hnext, heval, hreturn,
    (hreturns (.expr e) ()).mp hreturn⟩

/-- A text repeated so often that no text has as many bytes: the evaluation yields no value and
returns no error. -/
theorem evaluation_panics_repeated :
    let e := Expr.callOf .replicate [.literal (.string "ab"),
      .literal (.decimal ⟨9223372036854775807, 0, by decide, by decide⟩)]
    let input : Input Unit := .ofBindings .none_
    e.eval .none_ = .error (.panic "capacity overflow") ∧
      (∀ v, e.eval .none_ ≠ .ok v) ∧ (∀ error, e.eval .none_ ≠ .error (.refused error)) ∧
      ∃ w : Evaluators Unit, w.next input = w ∧
        (w.expr e).Panics () "capacity overflow" ∧ ¬ (w.expr e).Returns () := by
  intro e input
  have heval : e.eval .none_ = .error (.panic "capacity overflow") := rfl
  have hpanic : ((ofEval .none_ : Evaluators Unit).expr e).Panics () "capacity overflow" :=
    Run.panics_ofExcept_iff.mpr heval
  refine ⟨heval, by rw [heval]; exact nofun, by rw [heval]; exact nofun, ofEval .none_,
    next_ofEval .none_, hpanic, fun hreturns => ?_⟩
  exact ((Run.ends_ofExcept (e.eval .none_)).returns_iff ()).mp hreturns _ hpanic

end Evaluators

end Polysql

import Polysql.Proofs.Evaluation.Detour
import Polysql.Proofs.Value.Transitive
/-!
The least and the greatest of several expressions, and the nested cases that spell them out.

Both go through the arguments from left to right and carry one of them along. The function moves on
to an argument that is strictly better than the one it carries; the nested cases stay with the one
they carry if it is strictly better than the next. So they differ in ties, and in values that cannot
be compared. On values that can, both end with an argument that bounds all of them
(`Extreme.eval_call_bounds`).

They part on NULL. It makes the outcome of the function NULL. But no comparison with NULL is true,
so the nested cases go on with the next argument: they forget everything up to the last NULL
(`Extreme.chosen_append_null`), and the outcome is NULL only if the last argument is
(`Extreme.eval_nestedCases_null_iff`).
-/

namespace Polysql

/-- The two functions that choose among their arguments by order. -/
inductive Extreme where
  | least
  | greatest

namespace Extreme

/-- The function of that name. -/
def func : Extreme → Func
  | least => .least
  | greatest => .greatest

/-- The order in which a better value stands to another. -/
def wanted : Extreme → Ordering
  | least => .lt
  | greatest => .gt

/-- The comparison by which one value is better than another. -/
def better : Extreme → CompareOp
  | least => .lt
  | greatest => .gt

/-- The comparison of the extreme value with all values. -/
def bound : Extreme → CompareOp
  | least => .le
  | greatest => .ge

section

variable (x : Extreme) {v w u : Value} {o : Ordering}

/-! ### Bounds -/

/-- The first of two values is as good as the second or better. -/
def Bounds (v w : Value) : Prop :=
  Truth.compare v x.bound w = some true

lemma bounds_self (h : v.compare? v = some o) : x.Bounds v v := by
  rw [Value.compare?_self] at h
  split at h
  case isTrue => cases h
  case isFalse hself =>
    rw [Bounds, Truth.compare, Value.compare?_self, if_neg hself]
    cases x <;> rfl

lemma bounds_of_better (h : Truth.compare v x.better w = some true) : x.Bounds v w := by
  obtain ⟨o, ho, hholds⟩ := Option.map_eq_some_iff.mp h
  rw [Bounds, Truth.compare, ho]
  cases x <;> cases o <;> first | rfl | cases hholds

lemma bounds_of_not_better (h : v.compare? w = some o)
    (hnot : ¬ Truth.compare v x.better w = some true) : x.Bounds w v := by
  rw [Truth.compare, h] at hnot
  rw [Bounds, Truth.compare, Value.compare?_swap v w, h]
  cases x <;> cases o <;> first | rfl | exact absurd rfl hnot

lemma Bounds.trans (hv : v.isDouble = false) (hw : w.isDouble = false) (hu : u.isDouble = false)
    (hvw : x.Bounds v w) (hwu : x.Bounds w u) : x.Bounds v u := by
  cases x with
  | least => exact Truth.compare_le_trans hv hw hu hvw hwu
  | greatest =>
    rw [Bounds, bound, Truth.compare_ge] at hvw hwu ⊢
    exact Truth.compare_le_trans hu hw hv hwu hvw

/-- Values that bound each other are equal. -/
lemma Bounds.equal? (hvw : x.Bounds v w) (hwv : x.Bounds w v) : v.equal? w = some true := by
  obtain ⟨o, ho, hholds⟩ := Option.map_eq_some_iff.mp hvw
  rw [Bounds, Truth.compare, Value.compare?_swap v w, ho] at hwv
  rw [Value.equal?, ho]
  cases x <;> cases o <;>
    first | rfl | exact absurd hholds (by decide) | exact absurd hwv (by decide)

/-! ### Choosing among values -/

/-- The first of two values if it is better, else the second. -/
def pick (v w : Value) : Value :=
  if Truth.compare v x.better w = some true then v else w

/-- The value that the nested cases end with; NULL if there is none to choose from. -/
def chosen : List Value → Value
  | [] => .null
  | v :: vs => vs.foldl x.pick v

lemma pick_eq_or (v w : Value) : x.pick v w = v ∨ x.pick v w = w := by
  rw [pick]
  exact ite_eq_or_eq _ _ _

end

/-- Values that can all be compared with one another and with themselves, without a double. -/
structure Comparable (vs : List Value) : Prop where
  exact : ∀ v ∈ vs, v.isDouble = false
  compared : ∀ v ∈ vs, ∀ w ∈ vs, (v.compare? w).isSome

/-- NULL cannot be compared. -/
lemma Comparable.any_isNull {vs : List Value} (hvs : Comparable vs) :
    vs.any Value.isNull = false := by
  refine List.any_eq_false.mpr fun v hv hnull => ?_
  have hself := hvs.compared v hv v hv
  rw [Value.isNull_iff.mp hnull] at hself
  cases hself

/-- A way to choose one of two values, which bounds both if they are among the given ones. -/
structure Chooses (x : Extreme) (vs : List Value) (choose : Value → Value → Value) : Prop where
  eq_or : ∀ v w, choose v w = v ∨ choose v w = w
  bounds : ∀ v ∈ vs, ∀ w ∈ vs, x.Bounds (choose v w) v ∧ x.Bounds (choose v w) w

section

variable {x : Extreme} {vs : List Value} {choose : Value → Value → Value}

lemma Chooses.mem (h : x.Chooses vs choose) {v w : Value} (hv : v ∈ vs) (hw : w ∈ vs) :
    choose v w ∈ vs := by
  rcases h.eq_or v w with h | h <;> rw [h] <;> assumption

lemma Chooses.foldl_mem (h : x.Chooses vs choose) (v : Value) (ws : List Value) :
    ws.foldl choose v ∈ v :: ws := by
  induction ws generalizing v with
  | nil => exact List.mem_singleton_self v
  | cons w ws ih =>
    have hmem := ih (choose v w)
    rw [List.foldl_cons]
    rcases h.eq_or v w with h | h <;> rw [h] at hmem ⊢ <;> grind

/-- A choice that is carried along bounds all that it was chosen from. -/
lemma Chooses.foldl_bounds (h : x.Chooses vs choose) (hvs : Comparable vs) {v : Value}
    (hv : v ∈ vs) {ws : List Value} (hws : ∀ w ∈ ws, w ∈ vs) :
    ∀ u ∈ v :: ws, x.Bounds (ws.foldl choose v) u := by
  induction ws generalizing v with
  | nil =>
    obtain ⟨o, ho⟩ := Option.isSome_iff_exists.mp (hvs.compared v hv v hv)
    exact List.forall_mem_singleton.mpr (x.bounds_self ho)
  | cons w ws ih =>
    obtain ⟨hw, hws⟩ := List.forall_mem_cons.mp hws
    have hchosen := h.mem hv hw
    obtain ⟨hfirst, hrest⟩ := List.forall_mem_cons.mp (ih hchosen hws)
    have hlast : ws.foldl choose (choose v w) ∈ vs :=
      List.forall_mem_cons.mpr ⟨hchosen, hws⟩ _ (h.foldl_mem _ _)
    -- it bounds the choice from the first two, and so it bounds these two
    have hthrough {u : Value} (hu : u ∈ vs) (hbound : x.Bounds (choose v w) u) :
        x.Bounds (ws.foldl choose (choose v w)) u :=
      Bounds.trans x (hvs.exact _ hlast) (hvs.exact _ hchosen) (hvs.exact _ hu) hfirst hbound
    obtain ⟨hboundv, hboundw⟩ := h.bounds v hv w hw
    exact List.forall_mem_cons.mpr ⟨hthrough hv hboundv,
      List.forall_mem_cons.mpr ⟨hthrough hw hboundw, hrest⟩⟩

lemma chooses_pick (hvs : Comparable vs) : x.Chooses vs x.pick where
  eq_or := x.pick_eq_or
  bounds v hv w hw := by
    obtain ⟨o, ho⟩ := Option.isSome_iff_exists.mp (hvs.compared v hv w hw)
    obtain ⟨p, hp⟩ := Option.isSome_iff_exists.mp (hvs.compared v hv v hv)
    obtain ⟨q, hq⟩ := Option.isSome_iff_exists.mp (hvs.compared w hw w hw)
    rw [pick]
    split
    case isTrue h => exact ⟨x.bounds_self hp, x.bounds_of_better h⟩
    case isFalse h => exact ⟨x.bounds_of_not_better ho h, x.bounds_self hq⟩

lemma chooses_pick_swap (hvs : Comparable vs) : x.Chooses vs fun v w => x.pick w v where
  eq_or v w := (x.pick_eq_or w v).symm
  bounds v hv w hw := ((chooses_pick hvs).bounds w hw v hv).symm

end

section

variable (x : Extreme) {vs : List Value}

/-! ### The function -/

/-- The function keeps what it carries unless the next argument is better. -/
lemma better_eq {v w : Value} {o : Ordering} (h : w.compare? v = some o) :
    Func.better x.wanted v w = .ok (x.pick w v) := by
  rw [Func.better, h, pick, Truth.compare, h]
  cases x <;> cases o <;> rfl

lemma foldlM_better (hvs : Comparable vs) {v : Value} (hv : v ∈ vs) {ws : List Value}
    (hws : ∀ w ∈ ws, w ∈ vs) :
    ws.foldlM (Func.better x.wanted) v = .ok (ws.foldl (fun v w => x.pick w v) v) := by
  induction ws generalizing v with
  | nil => rfl
  | cons w ws ih =>
    obtain ⟨hw, hws⟩ := List.forall_mem_cons.mp hws
    obtain ⟨o, ho⟩ := Option.isSome_iff_exists.mp (hvs.compared w hw v hv)
    rw [List.foldlM_cons, x.better_eq ho, ok_bind,
      ih ((chooses_pick_swap hvs).mem hv hw) hws, List.foldl_cons]

lemma apply_func (vs : List Value) :
    x.func.apply vs = if vs.any Value.isNull then .ok .null else Func.extreme x.wanted vs := by
  cases x <;> rfl

/-- A call of the function, by the values of its arguments. -/
lemma eval_call (columns : Bindings) {c : Call} (hc : c.func = x.func)
    (hargs : evalEach columns c.args = vs.map .ok) :
    (Expr.call c).eval columns = x.func.apply vs := by
  obtain ⟨f, args, distinct, filter?⟩ := c
  obtain rfl : f = x.func := hc
  change (if x.func.isAggregate then _ else do x.func.apply (← collect (evalEach columns args))) = _
  rw [show evalEach columns args = vs.map .ok from hargs, collect_map_ok]
  cases x <;> rfl

/-! ### The nested cases -/

lemma eval_bestOf (columns : Bindings) {es : List Expr} {ws : List Value} {e : Expr} {v : Value}
    (he : e.eval columns = .ok v) (hes : evalEach columns es = ws.map .ok) :
    (Expr.bestOf x.better e es).eval columns = .ok (ws.foldl x.pick v) := by
  induction es generalizing e v ws with
  | nil =>
    cases ws with
    | nil => exact he
    | cons w ws => cases hes
  | cons d es ih =>
    cases ws with
    | nil => cases hes
    | cons w ws =>
      obtain ⟨hd, hes⟩ := List.cons.inj hes
      rw [Expr.bestOf, eval_caseWhen, evalBranches_cons, eval_compare, he, hd, List.foldl_cons,
        pick]
      change (if Truth.compare v x.better w = some true then _ else _) = _
      split
      case isTrue => exact ih he hes
      case isFalse => exact ih hd hes

lemma expandLeastGreatest_nil {c : Call} (hc : c.func = x.func) (hargs : c.args = []) :
    c.expandLeastGreatest = some .null := by
  rw [Call.expandLeastGreatest, hc, hargs]
  cases x <;> rfl

lemma expandLeastGreatest_cons {c : Call} (hc : c.func = x.func) {e : Expr} {es : List Expr}
    (hargs : c.args = e :: es) :
    c.expandLeastGreatest = some (Expr.bestOf x.better e es) := by
  rw [Call.expandLeastGreatest, hc, hargs]
  cases x <;> rfl

/-- There are nested cases for the function, and they end with the chosen value. -/
lemma eval_expandLeastGreatest (columns : Bindings) {c : Call} (hc : c.func = x.func)
    (hargs : evalEach columns c.args = vs.map .ok) :
    ∃ e, c.expandLeastGreatest = some e ∧ e.eval columns = .ok (x.chosen vs) := by
  cases hes : c.args with
  | nil =>
    rw [hes] at hargs
    obtain rfl : vs = [] := List.map_eq_nil_iff.mp hargs.symm
    exact ⟨_, x.expandLeastGreatest_nil hc hes, rfl⟩
  | cons e es =>
    rw [hes] at hargs
    cases vs with
    | nil => cases hargs
    | cons v vs =>
      obtain ⟨he, hargs⟩ := List.cons.inj hargs
      exact ⟨_, x.expandLeastGreatest_cons hc hes, x.eval_bestOf columns he hargs⟩

/-- **The least and the greatest value.** If the arguments have values that can all be compared and
are no doubles, so that none is NULL, the function and its nested cases end each with one of these
values. It compares with every argument as the extreme one does, and the two are equal. -/
theorem eval_call_bounds (columns : Bindings) {c : Call} (hc : c.func = x.func)
    (hargs : evalEach columns c.args = vs.map .ok) (hne : vs ≠ []) (hvs : Comparable vs) :
    ∃ e, c.expandLeastGreatest = some e ∧
      ∃ v ∈ vs, ∃ w ∈ vs, (Expr.call c).eval columns = .ok v ∧ e.eval columns = .ok w ∧
        v.equal? w = some true ∧
        ∀ u ∈ vs,
          Truth.compare v x.bound u = some true ∧ Truth.compare w x.bound u = some true := by
  obtain ⟨e, he, heval⟩ := x.eval_expandLeastGreatest columns hc hargs
  obtain ⟨v, ws, rfl⟩ := List.exists_cons_of_ne_nil hne
  obtain ⟨hv, hws⟩ := List.forall_mem_cons.mp fun u (hu : u ∈ v :: ws) => hu
  have hnative : (Expr.call c).eval columns = .ok (ws.foldl (fun v w => x.pick w v) v) := by
    rw [x.eval_call columns hc hargs, apply_func, hvs.any_isNull]
    exact x.foldlM_better hvs hv hws
  have hpick := chooses_pick (x := x) hvs
  have hswap := chooses_pick_swap (x := x) hvs
  have hnativeBounds := hswap.foldl_bounds hvs hv hws
  have hchosenBounds := hpick.foldl_bounds hvs hv hws
  refine ⟨e, he, _, hswap.foldl_mem v ws, _, hpick.foldl_mem v ws, hnative, heval, ?_,
    fun u hu => ⟨hnativeBounds u hu, hchosenBounds u hu⟩⟩
  exact Bounds.equal? x (hnativeBounds _ (hpick.foldl_mem v ws))
    (hchosenBounds _ (hswap.foldl_mem v ws))

end

/-- A tie of values of several kinds: the function ends with the first of them, the nested cases
with the last. -/
theorem eval_call_bounds_tie :
    let one : Value := .int32 1
    let oneWithPlace : Value := .decimal ⟨10, 1, by decide, by decide⟩
    let c : Call :=
      ⟨.least, [.literal (.int64 2), .literal one, .literal oneWithPlace], false, none⟩
    ∃ e, c.expandLeastGreatest = some e ∧ ∃ v w, (Expr.call c).eval Bindings.none_ = .ok v ∧
      e.eval Bindings.none_ = .ok w ∧ v.equal? w = some true ∧ v = one ∧ w = oneWithPlace := by
  intro one oneWithPlace c
  have hargs : evalEach Bindings.none_ c.args = [.int64 2, one, oneWithPlace].map .ok := rfl
  obtain ⟨e, he, v, -, w, -, hv, hw, hequal, -⟩ :=
    least.eval_call_bounds Bindings.none_ rfl hargs (List.cons_ne_nil _ _) ⟨by decide, by decide⟩
  refine ⟨e, he, v, w, hv, hw, hequal, ?_, ?_⟩
  · exact Except.ok.inj (hv.symm.trans rfl)
  · cases he
    exact Except.ok.inj (hw.symm.trans rfl)

/-! ### NULL -/

section

variable (x : Extreme) {v w : Value} {vs : List Value}

lemma pick_null_left (w : Value) : x.pick .null w = w := by
  rw [pick, Truth.compare, Value.compare?_null_left]
  rfl

lemma pick_null_right (v : Value) : x.pick v .null = .null := by
  rw [pick, Truth.compare, Value.compare?_null_right]
  rfl

lemma pick_eq_null_iff : x.pick v w = .null ↔ w = .null := by
  constructor
  · intro h
    rcases x.pick_eq_or v w with hpick | hpick
    · rw [hpick.symm.trans h, pick_null_left] at h
      exact h
    · exact hpick.symm.trans h
  · rintro rfl
    exact x.pick_null_right v

/-- The last argument decides whether the nested cases end with NULL. -/
lemma chosen_concat_eq_null_iff : x.chosen (vs ++ [v]) = .null ↔ v = .null := by
  cases vs with
  | nil => rfl
  | cons w vs =>
    rw [List.cons_append, chosen, List.foldl_concat]
    exact x.pick_eq_null_iff

lemma chosen_eq_null (h : ∀ v ∈ vs, v = .null) : x.chosen vs = .null := by
  rcases vs.eq_nil_or_concat' with rfl | ⟨ws, w, rfl⟩
  · rfl
  · exact x.chosen_concat_eq_null_iff.mpr (h w (by simp))

/-- The nested cases forget NULL and what came before it. -/
lemma chosen_append_null (before after : List Value) :
    x.chosen (before ++ .null :: after) = x.chosen after := by
  have hforget : after.foldl x.pick .null = x.chosen after := by
    cases after with
    | nil => rfl
    | cons w after => rw [List.foldl_cons, pick_null_left, chosen]
  cases before with
  | nil => exact hforget
  | cons w before =>
    rw [List.cons_append, chosen, List.foldl_append, List.foldl_cons, pick_null_right, hforget]

/-- NULL makes the outcome of the function NULL. -/
lemma apply_func_null (h : .null ∈ vs) : x.func.apply vs = .ok .null := by
  rw [apply_func, List.any_eq_true.mpr ⟨.null, h, rfl⟩]
  rfl

end

/-- Expressions that have their values among given ones, one for each. -/
lemma exists_values_of_mem {columns : Bindings} {vs : List Value} {es : List Expr}
    (h : ∀ e ∈ es, ∃ v ∈ vs, e.eval columns = .ok v) :
    ∃ ws : List Value, evalEach columns es = ws.map .ok ∧ ∀ w ∈ ws, w ∈ vs := by
  induction es with
  | nil => exact ⟨[], rfl, nofun⟩
  | cons e es ih =>
    obtain ⟨⟨v, hv, heval⟩, hes⟩ := List.forall_mem_cons.mp h
    obtain ⟨ws, hws, hmem⟩ := ih hes
    refine ⟨v :: ws, ?_, List.forall_mem_cons.mpr ⟨hv, hmem⟩⟩
    rw [evalEach_cons, heval, hws, List.map_cons]

/-- Values of several expressions are values of each. -/
lemma exists_value_of_mem {columns : Bindings} {vs : List Value} {es : List Expr}
    (h : evalEach columns es = vs.map .ok) {e : Expr} (he : e ∈ es) :
    ∃ v ∈ vs, e.eval columns = .ok v := by
  have hmem : e.eval columns ∈ vs.map .ok := by
    rw [← h, evalEach_eq_map]
    exact List.mem_map_of_mem he
  obtain ⟨v, hv, heval⟩ := List.mem_map.mp hmem
  exact ⟨v, hv, heval.symm⟩

section

variable (x : Extreme) {columns : Bindings} {c : Call} {vs : List Value}

/-- The nested cases have the outcome NULL for every order of the arguments only if no argument has
another value: one that has can be put last. -/
lemma eval_everyOrder_null_iff (hc : c.func = x.func)
    (hargs : evalEach columns c.args = vs.map .ok) :
    (∀ d : Call, d.func = x.func → d.args.Perm c.args →
      ∀ e, d.expandLeastGreatest = some e → e.eval columns = .ok .null) ↔
      ∀ v ∈ vs, v = .null := by
  constructor
  · intro h v hv
    obtain ⟨a, ha, hav⟩ : ∃ a ∈ c.args, a.eval columns = .ok v := by
      have hmem : .ok v ∈ evalEach columns c.args := hargs ▸ List.mem_map_of_mem hv
      rwa [evalEach_eq_map, List.mem_map] at hmem
    -- the order that has this argument at the end, where it counts whatever comes before
    obtain ⟨before, after, hsplit⟩ := List.append_of_mem ha
    obtain ⟨d, hd, hdargs⟩ : ∃ d : Call, d.func = x.func ∧ d.args = before ++ after ++ [a] :=
      ⟨{ c with args := before ++ after ++ [a] }, hc, rfl⟩
    have hperm : d.args.Perm c.args := by
      rw [hdargs, hsplit]
      exact (List.perm_append_singleton a _).trans List.perm_middle.symm
    obtain ⟨ws, hws, -⟩ := exists_values_of_mem fun e (he : e ∈ before ++ after) =>
      exists_value_of_mem hargs (hperm.subset (hdargs ▸ List.mem_append_left [a] he))
    have hdvalues : evalEach columns d.args = (ws ++ [v]).map .ok := by
      rw [hdargs, evalEach_eq_map, List.map_append, ← evalEach_eq_map, hws, List.map_append,
        List.map_singleton, List.map_singleton, hav]
    obtain ⟨e, he, heval⟩ := x.eval_expandLeastGreatest columns hd hdvalues
    have hlast := heval.symm.trans (h d hd hperm e he)
    exact x.chosen_concat_eq_null_iff.mp (Except.ok.inj hlast)
  · intro hall d hd hperm e he
    obtain ⟨ws, hws, hmem⟩ := exists_values_of_mem fun e he =>
      exists_value_of_mem hargs (hperm.subset he)
    obtain ⟨e', he', heval⟩ := x.eval_expandLeastGreatest columns hd hws
    obtain rfl := Option.some.inj (he.symm.trans he')
    rw [heval, x.chosen_eq_null fun w hw => hall w (hmem w hw)]

/-- **The nested cases and NULL.** If an argument is NULL, so is the outcome of the function. The
nested cases go by the last argument instead: their outcome is NULL if and only if that one is, and
in general what it is for the arguments after any NULL. So it is NULL in every order of the
arguments only if all of them are. -/
theorem eval_nestedCases_null_iff (hc : c.func = x.func)
    (hargs : evalEach columns c.args = vs.map .ok) (hnull : .null ∈ vs) :
    (Expr.call c).eval columns = .ok .null ∧
    (∃ e, c.expandLeastGreatest = some e ∧
      (e.eval columns = .ok .null ↔ vs.getLast? = some .null) ∧
      ∀ before after, vs = before ++ .null :: after →
        e.eval columns = .ok (x.chosen after)) ∧
    ((∀ d : Call, d.func = x.func → d.args.Perm c.args →
      ∀ e, d.expandLeastGreatest = some e → e.eval columns = .ok .null) ↔
      ∀ v ∈ vs, v = .null) := by
  obtain ⟨e, he, heval⟩ := x.eval_expandLeastGreatest columns hc hargs
  refine ⟨(x.eval_call columns hc hargs).trans (x.apply_func_null hnull), ⟨e, he, ?_, ?_⟩,
    x.eval_everyOrder_null_iff hc hargs⟩
  · rw [heval, Except.ok.injEq]
    obtain ⟨ws, w, rfl⟩ := vs.eq_nil_or_concat'.resolve_left (List.ne_nil_of_mem hnull)
    rw [x.chosen_concat_eq_null_iff, List.getLast?_concat, Option.some.injEq]
  · rintro before after rfl
    rw [heval, chosen_append_null]

end

/-- Of 5, NULL and 2 the nested cases choose 2, which comes after the NULL. -/
theorem eval_nestedCases_null_iff_between :
    let c : Call := ⟨.greatest, [.number 5, .null, .number 2], false, none⟩
    (Expr.call c).eval Bindings.none_ = .ok .null ∧
      ∃ e, c.expandLeastGreatest = some e ∧ e.eval Bindings.none_ = .ok (.ofNat 2) := by
  intro c
  have hargs : evalEach Bindings.none_ c.args = [.ofNat 5, .null, .ofNat 2].map .ok := rfl
  obtain ⟨hcall, ⟨e, he, -, hafter⟩, -⟩ := greatest.eval_nestedCases_null_iff rfl hargs (by simp)
  exact ⟨hcall, e, he, hafter [.ofNat 5] [.ofNat 2] rfl⟩

/-- The least of NULL and 1 is NULL, and the nested cases for it end with 1. -/
theorem eval_nestedCases_null_first :
    let c : Call := ⟨.least, [.null, .number 1], false, none⟩
    (Expr.call c).eval Bindings.none_ = .ok .null ∧
      ∃ e, c.expandLeastGreatest = some e ∧ e.eval Bindings.none_ = .ok (.ofNat 1) ∧
        e.eval Bindings.none_ ≠ .ok .null :=
  ⟨rfl, _, rfl, rfl, nofun⟩

end Extreme

end Polysql

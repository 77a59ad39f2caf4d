import Polysql.Proofs.Evaluation.Detour
import Polysql.Render
/-!
Aggregates with a filter. A function of many rows is applied to the values that its arguments have
in them, and passes over the rows in which the first argument is NULL. A filter leaves only the rows
on which it is true; where an engine has no filters, it is moved into the first argument, which is
made NULL on all other rows. The function then sees the same rows, but no argument beside the first
one. So what it yields stays the same for every function exactly if there is a single argument, and
`COUNT(*)` does not ask for distinct rows, or if no row counts at all (`Call.expandFilter_iff`).
-/

namespace Polysql

/-! ### Values of arguments -/

/-- The values of the arguments of a call in one row. -/
abbrev Tuple := List Value

namespace Tuple

/-- The first value is there, and it is not NULL. -/
def isKnown (t : Tuple) : Bool :=
  t.head?.any fun v => !v.isNull

/-- No value is distinct from the one in its place. -/
def same (t u : Tuple) : Bool :=
  t.isEqv u Value.notDistinct

end Tuple

lemma Value.isNull_of_notDistinct {v w : Value} (h : v.notDistinct w = true) :
    v.isNull = w.isNull := by
  rw [notDistinct] at h
  cases hv : v.isNull <;> cases hw : w.isNull <;> simp_all

lemma Tuple.isKnown_of_same {t u : Tuple} (h : t.same u = true) : t.isKnown = u.isKnown := by
  cases t with
  | nil =>
    cases u with
    | nil => rfl
    | cons w ws => cases h
  | cons v vs =>
    cases u with
    | nil => cases h
    | cons w ws =>
      rw [same, List.isEqv, Bool.and_eq_true] at h
      exact congrArg Bool.not (Value.isNull_of_notDistinct h.1)

section

variable {α : Type} {r : α → α → Bool} {p : α → Bool}

lemma filter_eraseDupsBy_loop (h : ∀ a b, r a b = true → p a = p b) (as bs : List α) :
    (List.eraseDupsBy.loop r as bs).filter p =
      List.eraseDupsBy.loop r (as.filter p) (bs.filter p) := by
  induction as generalizing bs with
  | nil => simp [List.eraseDupsBy.loop]
  | cons a as ih =>
    rw [List.eraseDupsBy.loop, List.filter_cons]
    cases hp : p a with
    | false =>
      rw [if_neg Bool.false_ne_true]
      split
      · exact ih bs
      · rw [ih, List.filter_cons, hp, if_neg Bool.false_ne_true]
    | true =>
      -- what is as `a` has the property as well
      have hany : (bs.filter p).any (r a) = bs.any (r a) := by
        rw [List.any_filter]
        refine congrArg bs.any (funext fun b => ?_)
        cases hr : r a b with
        | false => exact Bool.and_false _
        | true => rw [← h a b hr, hp, Bool.and_self]
      rw [if_pos rfl, List.eraseDupsBy.loop, hany]
      split
      · exact ih bs
      · rw [ih, List.filter_cons, hp, if_pos rfl]

/-- A property that elements share with those they repeat does not depend on repetitions. -/
lemma filter_eraseDupsBy (h : ∀ a b, r a b = true → p a = p b) (as : List α) :
    (as.eraseDupsBy r).filter p = (as.filter p).eraseDupsBy r :=
  filter_eraseDupsBy_loop h as []

end

/-! ### Functions of many rows -/

/-- What a function makes of the values of its arguments in some rows. It passes over the rows in
which the first argument is NULL. -/
structure Aggregation where
  /-- The value of the function. -/
  apply : List Tuple → Value
  apply_filter (ts : List Tuple) : apply (ts.filter Tuple.isKnown) = apply ts

namespace Aggregation

/-- The number of rows in which the first argument is not NULL. -/
def count : Aggregation where
  apply ts := .int64 (Int64.ofNat (ts.filter Tuple.isKnown).length)
  apply_filter ts := by rw [List.filter_filter]; simp only [Bool.and_self]

/-- Whether there are several arguments in some row in which the first one is not NULL. -/
def severalArguments : Aggregation where
  apply ts := .boolean ((ts.filter Tuple.isKnown).any fun t => 1 < t.length)
  apply_filter ts := by rw [List.filter_filter]; simp only [Bool.and_self]

/-- Repetitions count once, if only distinct rows are to count. -/
def dedupe (distinct : Bool) (ts : List Tuple) : List Tuple :=
  if distinct then ts.eraseDupsBy Tuple.same else ts

lemma dedupe_singleton (distinct : Bool) (t : Tuple) : dedupe distinct [t] = [t] := by
  cases distinct <;> rfl

lemma severalArguments_singleton {t : Tuple} (h : t.isKnown = true) :
    severalArguments.apply [t] = .boolean (1 < t.length) := by
  rw [severalArguments]
  simp [h]

lemma filter_dedupe (distinct : Bool) (ts : List Tuple) :
    (dedupe distinct ts).filter Tuple.isKnown = dedupe distinct (ts.filter Tuple.isKnown) := by
  cases distinct with
  | false => rfl
  | true => exact filter_eraseDupsBy (r := Tuple.same) (fun _ _ h => Tuple.isKnown_of_same h) ts

/-- Only rows in which the first argument is not NULL make a difference. -/
lemma apply_dedupe_congr (f : Aggregation) (distinct : Bool) {ts us : List Tuple}
    (h : ts.filter Tuple.isKnown = us.filter Tuple.isKnown) :
    f.apply (dedupe distinct ts) = f.apply (dedupe distinct us) := by
  rw [← f.apply_filter (dedupe distinct ts), filter_dedupe, h, ← filter_dedupe, f.apply_filter]

end Aggregation

/-- The condition is true in a row, and neither false nor unknown. -/
def Condition.isTrueIn (c : Condition) (b : Bindings) : Bool :=
  (c.eval b).toOption.join == some true

namespace Call

variable (c : Call)

/-- The values of the arguments in a row. -/
def argumentsIn (b : Bindings) : Evaluated Tuple :=
  collect (evalEach b c.args)

/-- The rows that the filter leaves. -/
def chosen (rows : List Bindings) : List Bindings :=
  rows.filter fun b => c.filter?.all fun condition => condition.isTrueIn b

/-- The value of a call for some rows. `COUNT(*)` is the number of rows, and any other call applies
its function to the values of the arguments. -/
def aggregate (f : Aggregation) (rows : List Bindings) : Outcome :=
  if c.isCountStar then .ok (.int64 (Int64.ofNat (c.chosen rows).length))
  else do
    let ts ← (c.chosen rows).mapM c.argumentsIn
    return f.apply (Aggregation.dedupe c.distinct ts)

/-- The filter and the arguments have values in a row. -/
structure EvaluatesIn (b : Bindings) : Prop where
  filter : ∀ condition, c.filter? = some condition → ∃ t, condition.eval b = .ok t
  arguments : c.isCountStar = false → ∃ t, c.argumentsIn b = .ok t

/-- The row is one that makes a difference: the filter leaves it, and the first argument is not
NULL in it. -/
def countsIn (b : Bindings) : Bool :=
  (c.filter?.all fun condition => condition.isTrueIn b) &&
    (c.isCountStar || (c.argumentsIn b).toOption.any Tuple.isKnown)

/-! ### The filter in the first argument -/

/-- What the filter is moved into, with what is left behind: the arguments, or a number for the
rows that `COUNT(*)` counts. -/
def movable : List Expr :=
  if c.isCountStar then [.number 1] else c.args

/-- The values of this in a row, if it has values. -/
def valuesIn (b : Bindings) : Tuple :=
  (collect (evalEach b c.movable)).toOption.getD []

/-- The call with a condition in its only argument. -/
def moved (condition : Condition) (e : Expr) : Call :=
  { c with args := [.caseWhen [(condition, e)] none], filter? := none }

/-- The values that are left in a row: the first one, or NULL. -/
def leftIn (condition : Condition) (b : Bindings) : Tuple :=
  if condition.isTrueIn b then (c.valuesIn b).take 1 else [.null]

variable {c}

lemma movable_of_isCountStar (h : c.isCountStar = true) : c.movable = [.number 1] := by
  rw [movable, if_pos h]

lemma movable_of_not_isCountStar (h : c.isCountStar = false) : c.movable = c.args := by
  rw [movable, h, if_neg Bool.false_ne_true]

lemma expandFilter_eq {condition : Condition} (hfilter : c.filter? = some condition) {e : Expr}
    {es : List Expr} (he : c.movable = e :: es) :
    c.expandFilter = some (c.moved condition e) := by
  rw [expandFilter, hfilter, Option.map_some, moved]
  rw [movable] at he
  split at he
  next hstar =>
    rw [if_pos hstar]
    cases he
    rfl
  next hstar =>
    rw [if_neg hstar, he]
    rfl

lemma collect_movable {b : Bindings} (h : c.EvaluatesIn b) :
    collect (evalEach b c.movable) = .ok (c.valuesIn b) := by
  suffices ∃ t, collect (evalEach b c.movable) = .ok t by
    obtain ⟨t, ht⟩ := this
    rw [valuesIn, ht]
    rfl
  cases hstar : c.isCountStar with
  | true => exact ⟨[.ofNat 1], by rw [movable_of_isCountStar hstar]; rfl⟩
  | false =>
    rw [movable_of_not_isCountStar hstar]
    exact h.arguments hstar

lemma length_of_collect {b : Bindings} : ∀ {es : List Expr} {vs : List Value},
    collect (evalEach b es) = .ok vs → vs.length = es.length
  | [], _, h => by
    cases h
    rfl
  | e :: es, vs, h => by
    rw [evalEach_cons, collect_cons] at h
    cases hv : e.eval b with
    | error err => rw [hv] at h; cases h
    | ok v =>
      cases hvs : collect (evalEach b es) with
      | error err => rw [hv, hvs] at h; cases h
      | ok ws =>
        rw [hv, hvs] at h
        cases h
        rw [List.length_cons, List.length_cons, length_of_collect hvs]

/-- The values begin with that of the first argument. -/
lemma exists_valuesIn_eq {e : Expr} {es : List Expr} (he : c.movable = e :: es) {b : Bindings}
    (h : c.EvaluatesIn b) : ∃ v vs, e.eval b = .ok v ∧ c.valuesIn b = v :: vs := by
  have hvalues := collect_movable h
  rw [he, evalEach_cons, collect_cons] at hvalues
  cases hv : e.eval b with
  | error err =>
    rw [hv] at hvalues
    cases hvalues
  | ok v =>
    cases hvs : collect (evalEach b es) with
    | error err =>
      rw [hv, hvs] at hvalues
      cases hvalues
    | ok vs =>
      rw [hv, hvs] at hvalues
      exact ⟨v, vs, rfl, (Except.ok.inj hvalues).symm⟩

lemma countsIn_eq {b : Bindings} (h : c.EvaluatesIn b) :
    c.countsIn b =
      ((c.filter?.all fun condition => condition.isTrueIn b) && (c.valuesIn b).isKnown) := by
  rw [countsIn]
  cases hstar : c.isCountStar with
  | true =>
    have hvalues := collect_movable h
    rw [movable_of_isCountStar hstar] at hvalues
    rw [← Except.ok.inj hvalues]
    rfl
  | false =>
    have hvalues := collect_movable h
    rw [movable_of_not_isCountStar hstar] at hvalues
    rw [argumentsIn, hvalues]
    rfl

/-- What the moved call is applied to in a row. -/
lemma argumentsIn_moved {condition : Condition} (hfilter : c.filter? = some condition) {e : Expr}
    {es : List Expr} (he : c.movable = e :: es) {b : Bindings} (h : c.EvaluatesIn b) :
    (c.moved condition e).argumentsIn b = .ok (c.leftIn condition b) := by
  obtain ⟨t, ht⟩ := h.filter condition hfilter
  obtain ⟨v, vs, hv, hvalues⟩ := exists_valuesIn_eq he h
  rw [argumentsIn, moved, evalEach_cons, collect_cons, eval_caseWhen, evalBranches_cons, ht,
    ok_bind, leftIn, Condition.isTrueIn, ht, hvalues, hv]
  rcases t with _ | _ | _ <;> rfl

/-- The moved call sees the rows that make a difference, but no argument beside the first. -/
lemma filter_leftIn {condition : Condition} (hfilter : c.filter? = some condition) {e : Expr}
    {es : List Expr} (he : c.movable = e :: es) {rows : List Bindings}
    (h : ∀ b ∈ rows, c.EvaluatesIn b) :
    (rows.map (c.leftIn condition)).filter Tuple.isKnown =
      (((c.chosen rows).map c.valuesIn).filter Tuple.isKnown).map (List.take 1) := by
  -- a row counts behind the `CASE` if its values are known and the condition is true
  have hcounts : ∀ b ∈ rows, (Tuple.isKnown ∘ c.leftIn condition) b =
      ((Tuple.isKnown ∘ c.valuesIn) b && condition.isTrueIn b) := by
    intro b hb
    obtain ⟨v, vs, -, hvalues⟩ := exists_valuesIn_eq he (h b hb)
    rw [Function.comp_apply, Function.comp_apply, leftIn, hvalues]
    cases condition.isTrueIn b with
    | false => exact (Bool.and_false _).symm
    | true => exact (Bool.and_true _).symm
  rw [chosen, hfilter, List.filter_map, List.filter_map, List.filter_filter, List.map_map]
  simp only [Option.all_some]
  rw [← List.filter_congr hcounts]
  refine List.map_congr_left fun b hb => ?_
  obtain ⟨hb, hknown⟩ := List.mem_filter.mp hb
  rw [hcounts b hb, Bool.and_eq_true] at hknown
  rw [leftIn, if_pos hknown.2]
  rfl

/-! ### Calls on some rows -/

/-- The call applies its function to the rows that the filter leaves, where `COUNT(*)` counts each
row once. -/
lemma aggregate_eq {f : Aggregation} (hcount : c.isCountStar = true → f = .count)
    {rows : List Bindings} (h : ∀ b ∈ rows, c.EvaluatesIn b) :
    c.aggregate f rows = .ok (f.apply
      (Aggregation.dedupe (c.distinct && !c.isCountStar) ((c.chosen rows).map c.valuesIn))) := by
  have hchosen : ∀ b ∈ c.chosen rows, c.EvaluatesIn b :=
    fun b hb => h b (List.mem_filter.mp hb).1
  -- `COUNT(*)` has no arguments, so each row counts as the one that is moved in
  cases hstar : c.isCountStar with
  | true =>
    have hones : (c.chosen rows).map c.valuesIn = (c.chosen rows).map fun _ => [.ofNat 1] := by
      refine List.map_congr_left fun b hb => ?_
      have hvalues := collect_movable (hchosen b hb)
      rw [movable_of_isCountStar hstar] at hvalues
      exact (Except.ok.inj hvalues).symm
    have hknown : ((c.chosen rows).map fun _ => [Value.ofNat 1]).filter Tuple.isKnown =
        (c.chosen rows).map fun _ => [.ofNat 1] :=
      List.filter_eq_self.mpr (List.forall_mem_map.mpr fun _ _ => rfl)
    rw [aggregate, if_pos hstar, hcount hstar, hones, Bool.not_true, Bool.and_false,
      Aggregation.dedupe, if_neg Bool.false_ne_true, Aggregation.count]
    simp only [hknown, List.length_map]
  | false =>
    have htuples : (c.chosen rows).mapM c.argumentsIn = .ok ((c.chosen rows).map c.valuesIn) := by
      refine mapM_eq_ok fun b hb => ?_
      have hvalues := collect_movable (hchosen b hb)
      rwa [movable_of_not_isCountStar hstar] at hvalues
    rw [aggregate, hstar, if_neg Bool.false_ne_true, htuples, ok_bind, Bool.not_false,
      Bool.and_true]
    rfl

/-- The moved call applies its function to what is left in every row. -/
lemma aggregate_moved {condition : Condition} (hfilter : c.filter? = some condition) {e : Expr}
    {es : List Expr} (he : c.movable = e :: es) (f : Aggregation) {rows : List Bindings}
    (h : ∀ b ∈ rows, c.EvaluatesIn b) :
    (c.moved condition e).aggregate f rows =
      .ok (f.apply (Aggregation.dedupe c.distinct (rows.map (c.leftIn condition)))) := by
  have hstar : (c.moved condition e).isCountStar = false := by
    rw [isCountStar, moved]
    cases c.func <;> rfl
  have hchosen : (c.moved condition e).chosen rows = rows :=
    List.filter_eq_self.mpr fun _ _ => rfl
  have htuples : rows.mapM (c.moved condition e).argumentsIn =
      .ok (rows.map (c.leftIn condition)) :=
    mapM_eq_ok fun b hb => argumentsIn_moved hfilter he (h b hb)
  rw [aggregate, hstar, if_neg Bool.false_ne_true, hchosen, htuples]
  rfl

lemma length_valuesIn {b : Bindings} (h : c.EvaluatesIn b) :
    (c.valuesIn b).length = c.movable.length :=
  length_of_collect (collect_movable h)

/-- A call with one argument yields for all rows what it yields with its filter. -/
lemma aggregate_moved_of_single {condition : Condition} (hfilter : c.filter? = some condition)
    {e : Expr} (he : c.movable = [e]) (hdistinct : (c.isCountStar && c.distinct) = false)
    {f : Aggregation} (hcount : c.isCountStar = true → f = .count) {rows : List Bindings}
    (h : ∀ b ∈ rows, c.EvaluatesIn b) :
    (c.moved condition e).aggregate f rows = c.aggregate f rows := by
  have hleft := filter_leftIn hfilter he h
  have htake : (((c.chosen rows).map c.valuesIn).filter Tuple.isKnown).map (List.take 1) =
      ((c.chosen rows).map c.valuesIn).filter Tuple.isKnown := by
    refine List.map_congr_left (g := id) (fun t ht => ?_) |>.trans (List.map_id _)
    obtain ⟨b, hb, rfl⟩ := List.mem_map.mp (List.mem_filter.mp ht).1
    have hlength := length_valuesIn (h b (List.mem_filter.mp hb).1)
    rw [he] at hlength
    exact List.take_of_length_le (Nat.le_of_eq hlength)
  have hflags : (c.distinct && !c.isCountStar) = c.distinct := by
    cases hstar : c.isCountStar <;> cases hd : c.distinct <;> simp_all
  rw [aggregate_eq hcount h, aggregate_moved hfilter he f h, hflags]
  exact congrArg Except.ok (f.apply_dedupe_congr c.distinct (hleft.trans htake))

/-- Both calls yield what they yield for no rows if no row makes a difference. -/
lemma aggregate_moved_of_none {condition : Condition} (hfilter : c.filter? = some condition)
    {e : Expr} {es : List Expr} (he : c.movable = e :: es) {f : Aggregation}
    (hcount : c.isCountStar = true → f = .count) {rows : List Bindings}
    (h : ∀ b ∈ rows, c.EvaluatesIn b) (hnone : ∀ b ∈ rows, c.countsIn b = false) :
    (c.moved condition e).aggregate f rows = c.aggregate f rows := by
  have hknown : ((c.chosen rows).map c.valuesIn).filter Tuple.isKnown = [] := by
    refine List.filter_eq_nil_iff.mpr (List.forall_mem_map.mpr fun b hb => ?_)
    obtain ⟨hb, hchosen⟩ := List.mem_filter.mp hb
    have hcounts := hnone b hb
    rw [countsIn_eq (h b hb), hchosen, Bool.true_and] at hcounts
    rw [hcounts]
    exact Bool.false_ne_true
  have hleft := filter_leftIn hfilter he h
  rw [hknown, List.map_nil] at hleft
  have hempty {ts : List Tuple} (hts : ts.filter Tuple.isKnown = []) (distinct : Bool) :
      f.apply (Aggregation.dedupe distinct ts) = f.apply [] := by
    have hsame : ts.filter Tuple.isKnown = ([] : List Tuple).filter Tuple.isKnown := hts
    rw [f.apply_dedupe_congr distinct hsame]
    cases distinct <;> rfl
  rw [aggregate_eq hcount h, aggregate_moved hfilter he f h, hempty hknown, hempty hleft]

lemma isTrueIn_of_countsIn {condition : Condition} (hfilter : c.filter? = some condition)
    {b : Bindings} (hcounts : c.countsIn b = true) : condition.isTrueIn b = true := by
  rw [countsIn, hfilter, Bool.and_eq_true] at hcounts
  exact hcounts.1

lemma chosen_eq_self {condition : Condition} (hfilter : c.filter? = some condition)
    {rows : List Bindings} (h : ∀ b ∈ rows, condition.isTrueIn b = true) :
    c.chosen rows = rows := by
  refine List.filter_eq_self.mpr fun b hb => ?_
  rw [hfilter]
  exact h b hb

/-- A row that makes a difference tells several arguments from one. -/
lemma length_movable_of_aggregate {condition : Condition} (hfilter : c.filter? = some condition)
    {e : Expr} {es : List Expr} (he : c.movable = e :: es) (hstar : c.isCountStar = false)
    {b : Bindings} (hb : c.EvaluatesIn b) (hcounts : c.countsIn b = true)
    (h : (c.moved condition e).aggregate .severalArguments [b] =
      c.aggregate .severalArguments [b]) : c.movable.length = 1 := by
  have hrows : ∀ b' ∈ [b], c.EvaluatesIn b' := List.forall_mem_singleton.mpr hb
  have htrue := isTrueIn_of_countsIn hfilter hcounts
  have hknown : (c.valuesIn b).isKnown = true := by
    rw [countsIn_eq hb, Bool.and_eq_true] at hcounts
    exact hcounts.2
  obtain ⟨v, vs, -, hvalues⟩ := exists_valuesIn_eq he hb
  have hknown' : Tuple.isKnown [v] = true := by rwa [hvalues] at hknown
  have hleft : c.leftIn condition b = [v] := by rw [leftIn, if_pos htrue, hvalues]; rfl
  -- on a single row, the aggregate that tells how many arguments it has gives both away
  rw [aggregate_eq (by rw [hstar]; exact nofun) hrows, aggregate_moved hfilter he _ hrows,
    chosen_eq_self hfilter (List.forall_mem_singleton.mpr htrue), List.map_singleton,
    List.map_singleton, Aggregation.dedupe_singleton, Aggregation.dedupe_singleton, hleft,
    Aggregation.severalArguments_singleton hknown', Aggregation.severalArguments_singleton hknown]
    at h
  have hlength : ¬1 < (c.valuesIn b).length := by simpa using h
  have hpos : 0 < (c.valuesIn b).length := by rw [hvalues]; exact Nat.succ_pos _
  rw [← length_valuesIn hb]
  omega

/-- A row that is counted twice tells distinct rows from all. -/
lemma distinct_eq_false_of_aggregate {condition : Condition} (hfilter : c.filter? = some condition)
    (hstar : c.isCountStar = true) {b : Bindings} (hb : c.EvaluatesIn b)
    (hcounts : c.countsIn b = true)
    (h : (c.moved condition (.number 1)).aggregate .count [b, b] = c.aggregate .count [b, b]) :
    c.distinct = false := by
  have hrows : ∀ b' ∈ [b, b], c.EvaluatesIn b' := by simp [hb]
  have htrue := isTrueIn_of_countsIn hfilter hcounts
  have hchosen : c.chosen [b, b] = [b, b] := chosen_eq_self hfilter (by simp [htrue])
  have hvalues := collect_movable hb
  rw [movable_of_isCountStar hstar] at hvalues
  have hleft : c.leftIn condition b = [.ofNat 1] := by
    rw [leftIn, if_pos htrue, ← Except.ok.inj hvalues]
    rfl
  -- twice the same row counts twice for `COUNT(*)`, and once for distinct values
  rw [aggregate_moved hfilter (movable_of_isCountStar hstar) _ hrows, aggregate, if_pos hstar,
    hchosen, List.map_cons, List.map_singleton, hleft] at h
  cases hdistinct : c.distinct with
  | false => rfl
  | true =>
    rw [hdistinct] at h
    have hcount : Int64.ofNat 1 = Int64.ofNat 2 := Value.int64.inj (Except.ok.inj h)
    exact absurd hcount (by decide)

lemma length_args_of_isCountStar (hstar : c.isCountStar = true) : c.args.length = 1 := by
  unfold isCountStar at hstar
  split at hstar
  next hargs => rw [hargs, List.length_singleton]
  next => cases hstar

/-- **Aggregates with a filter.** What a call yields for some rows is what it yields with its filter
moved into the first argument, whatever its function, if and only if it has no other argument and is
not a `COUNT(*)` of distinct rows, or if there is no row at all that makes a difference to it. -/
theorem expandFilter_iff (c : Call) (hfilter : c.filter? ≠ none) (hargs : c.args ≠ []) :
    ∃ moved, c.expandFilter = some moved ∧
      ((∀ (f : Aggregation) (rows : List Bindings), (c.isCountStar = true → f = .count) →
          (∀ b ∈ rows, c.EvaluatesIn b) →
          ∃ v, c.aggregate f rows = .ok v ∧ moved.aggregate f rows = .ok v) ↔
        c.args.length = 1 ∧ (c.isCountStar && c.distinct) = false ∨
          ∀ b, c.EvaluatesIn b → c.countsIn b = false) := by
  obtain ⟨condition, hfilter⟩ := Option.ne_none_iff_exists'.mp hfilter
  have hlength : c.movable.length = c.args.length := by
    cases hstar : c.isCountStar with
    | true => rw [movable_of_isCountStar hstar, length_args_of_isCountStar hstar]; rfl
    | false => rw [movable_of_not_isCountStar hstar]
  obtain ⟨e, es, he⟩ : ∃ e es, c.movable = e :: es := by
    refine List.exists_cons_of_ne_nil fun hnil => hargs ?_
    rw [← List.length_eq_zero_iff, ← hlength, hnil]
    rfl
  refine ⟨c.moved condition e, expandFilter_eq hfilter he, fun h => ?_,
    fun h f rows hcount hrows => ?_⟩
  -- if some row counts, copies of it tell the two calls apart
  · refine or_iff_not_imp_right.mpr fun hcounts => ?_
    obtain ⟨b, hcounts⟩ := not_forall.mp hcounts
    obtain ⟨hb, hcounts⟩ := Classical.not_imp.mp hcounts
    rw [Bool.not_eq_false] at hcounts
    have hsame (f : Aggregation) (rows : List Bindings) (hcount : c.isCountStar = true → f = .count)
        (hrows : ∀ b' ∈ rows, b' = b) :
        (c.moved condition e).aggregate f rows = c.aggregate f rows := by
      obtain ⟨v, hv, hmoved⟩ := h f rows hcount fun b' hb' => hrows b' hb' ▸ hb
      rw [hv, hmoved]
    cases hstar : c.isCountStar with
    | true =>
      have hone := movable_of_isCountStar hstar
      obtain rfl : e = .number 1 := (List.cons.inj (he.symm.trans hone)).1
      refine ⟨length_args_of_isCountStar hstar, (Bool.true_and _).trans ?_⟩
      exact distinct_eq_false_of_aggregate hfilter hstar hb hcounts
        (hsame .count [b, b] (fun _ => rfl) (by simp))
    | false =>
      refine ⟨hlength.symm.trans ?_, Bool.false_and _⟩
      exact length_movable_of_aggregate hfilter he hstar hb hcounts
        (hsame .severalArguments [b] (by rw [hstar]; exact nofun) (by simp))
  · refine ⟨_, aggregate_eq hcount hrows, ?_⟩
    rw [← aggregate_eq hcount hrows]
    obtain ⟨hone, hdistinct⟩ | hnone := h
    · obtain rfl : es = [] := by
        rw [← hlength, he, List.length_cons] at hone
        exact List.length_eq_zero_iff.mp (by omega)
      exact aggregate_moved_of_single hfilter he hdistinct hcount hrows
    · exact aggregate_moved_of_none hfilter he hcount hrows fun b hb => hnone b (hrows b hb)

/-- The sum of the distinct positive values of a column. -/
theorem expandFilter_iff_sum :
    let x := Expr.column (.ofText "x")
    let c : Call := ⟨.sum, [x], true, some (.compare x .gt (.number 0))⟩
    c.filter? ≠ none ∧ c.args ≠ [] ∧ ∃ moved, c.expandFilter = some moved ∧
      ∀ (f : Aggregation) (rows : List Bindings), (∀ b ∈ rows, c.EvaluatesIn b) →
        ∃ v, c.aggregate f rows = .ok v ∧ moved.aggregate f rows = .ok v := by
  intro x c
  obtain ⟨moved, hmoved, hiff⟩ := expandFilter_iff c nofun nofun
  exact ⟨nofun, nofun, moved, hmoved, fun f rows hrows =>
    hiff.mpr (.inl ⟨rfl, rfl⟩) f rows nofun hrows⟩

/-- Texts that are put together with a separator. The separator is left behind. -/
theorem expandFilter_separator :
    let c : Call := ⟨.custom (.ofText "string_agg"),
      [.column (.ofText "x"), .literal (.string ",")], false,
      some (.compare (.column (.ofText "a")) .gt (.number 1))⟩
    let rows := [Bindings.ofList [("x", .string "one"), ("a", .ofNat 2)]]
    (∀ b ∈ rows, c.EvaluatesIn b) ∧
      (∃ moved, c.expandFilter = some moved ∧
        c.aggregate .severalArguments rows = .ok (.boolean true) ∧
        moved.aggregate .severalArguments rows = .ok (.boolean false)) ∧
      (Renderer.render { dialect := .mySql, settings := { quoting := .never } }
          (.select { fields := [⟨.call c, none⟩], tables := [.ofName (.ofText "t")] })).map
          Rendered.sql =
        .ok "SELECT string_agg(CASE WHEN a > 1 THEN x END) FROM t" := by
  intro c rows
  have hrows : ∀ b ∈ rows, c.EvaluatesIn b := by
    refine List.forall_mem_singleton.mpr ⟨fun condition hcondition => ?_, fun _ => ?_⟩
    · cases hcondition
      exact ⟨some true, by rfl⟩
    · exact ⟨[.string "one", .string ","], by rfl⟩
  refine ⟨hrows, ⟨_, rfl, ?_, ?_⟩, by decide +kernel⟩
  · rfl
  · rfl

end Call

end Polysql

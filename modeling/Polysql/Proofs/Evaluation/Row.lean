import Polysql.Proofs.Evaluation.Junction
/-!
The detours of conditions on rows, evaluated. A comparison of rows that is spelled out value by
value is as true as the comparison itself (`eval_rowsCompared`), and so are the memberships and the
bounds that are made of such comparisons (`eval_expandRowIn`, `eval_expandRowIsNull`,
`eval_expandRowBetween`). The detours fail exactly when the condition does, and with its error.
-/

namespace Polysql

section

variable (columns : Bindings)

lemma evalEach_cons (e : Expr) (es : List Expr) :
    evalEach columns (e :: es) = e.eval columns :: evalEach columns es :=
  rfl

lemma evalEach_eq_map (es : List Expr) : evalEach columns es = es.map (Expr.eval columns) := by
  induction es with
  | nil => rfl
  | cons e es ih => rw [evalEach_cons, List.map_cons, ih]

@[simp] lemma length_evalEach (es : List Expr) : (evalEach columns es).length = es.length := by
  rw [evalEach_eq_map, List.length_map]

lemma pairUp_cons (a b : Outcome) (as bs : List Outcome) :
    pairUp (a :: as) (b :: bs) = do
      let v ← a
      let w ← b
      return (v, w) :: (← pairUp as bs) := by
  rw [pairUp]

lemma eval_compare (a : Expr) (op : CompareOp) (b : Expr) :
    (Condition.compare a op b).eval columns = do
      let v ← a.eval columns
      let w ← b.eval columns
      return Truth.compare v op w :=
  rfl

/-! ### Comparisons -/

/-- The equalities of two rows, evaluated side by side. -/
lemma evalAll_equals (l r : Row) :
    evalAll columns (List.zipWith Condition.equals l r) =
      (pairUp (evalEach columns l) (evalEach columns r)).map
        (List.map fun (a, b) => Truth.compare a .eq b) := by
  induction l generalizing r with
  | nil => cases r <;> rfl
  | cons a l ih =>
    cases r with
    | nil => rfl
    | cons b r =>
      rw [List.zipWith_cons_cons, evalAll_cons, ih, evalEach_cons, evalEach_cons, pairUp_cons,
        Condition.equals, eval_compare]
      cases a.eval columns <;> cases b.eval columns <;>
        cases pairUp (evalEach columns l) (evalEach columns r) <;> rfl

/-- Two rows that are equal value by value. -/
lemma eval_rowsEqual (l r : Row) :
    (Condition.rowsEqual l r).eval columns =
      (pairUp (evalEach columns l) (evalEach columns r)).map Truth.rowsEqual := by
  rw [Condition.rowsEqual, Condition.eval_all, Condition.eval_and, evalAll_equals]
  cases pairUp (evalEach columns l) (evalEach columns r) <;> rfl

/-- The equalities passed so far, and a comparison at the place after them. -/
lemma eval_both_all {before : List Condition} {equal : List Truth}
    (h : evalAll columns before = .ok equal) (c : Condition) :
    (Condition.both (.all before) c).eval columns =
      (c.eval columns).map fun t => Truth.all (equal ++ [t]) := by
  rw [Condition.eval_both, ← List.singleton_append, Condition.eval_and_append,
    Condition.eval_and_singleton, Condition.eval_and_singleton, Condition.eval_all,
    Condition.eval_and, h]
  cases c.eval columns with
  | error e => rfl
  | ok t => simp only [ok_map, ok_bind, Truth.all_append, Truth.all_singleton]; rfl

lemma rowsOrdered_cons_cons (op : CompareOp) (before : List Condition) (a a' b b' : Expr)
    (l r : Row) :
    Condition.rowsOrdered op before (a :: a' :: l) (b :: b' :: r) =
      .both (.all before) (.compare a op.strict b) ::
        Condition.rowsOrdered op (before ++ [.equals a b]) (a' :: l) (b' :: r) := rfl

/-- The ways in which one row can come before another, evaluated. The list `equal` holds the truths
of the equalities passed so far. -/
lemma evalAll_rowsOrdered (op : CompareOp) : ∀ {l r : Row}, l.length = r.length →
    ∀ {before : List Condition} {equal : List Truth}, evalAll columns before = .ok equal →
      evalAll columns (Condition.rowsOrdered op before l r) =
        (pairUp (evalEach columns l) (evalEach columns r)).map (Truth.waysToPrecede op equal)
  | [], [], _, before, equal, _ => by
    rfl
  | [a], [b], _, before, equal, h => by
    rw [Condition.rowsOrdered, evalAll_cons, evalAll_nil, eval_both_all columns h, eval_compare,
      evalEach_cons columns a, evalEach_cons columns b, pairUp_cons]
    cases a.eval columns <;> cases b.eval columns <;> rfl
  | a :: a' :: l, b :: b' :: r, hlen, before, equal, h => by
    have hlen' : (a' :: l).length = (b' :: r).length := by simpa using hlen
    rw [rowsOrdered_cons_cons, evalAll_cons, eval_both_all columns h, eval_compare,
      evalEach_cons columns a, evalEach_cons columns b, pairUp_cons]
    cases ha : a.eval columns with
    | error e => rfl
    | ok v =>
      cases hb : b.eval columns with
      | error e => rfl
      | ok w =>
        -- the equality of these two values is passed on to the rest
        have h' : evalAll columns (before ++ [.equals a b]) =
            .ok (equal ++ [Truth.compare v .eq w]) := by
          rw [evalAll_append, h, evalAll_cons, evalAll_nil, Condition.equals, eval_compare, ha, hb]
          rfl
        rw [evalAll_rowsOrdered op hlen' h', evalEach_cons, evalEach_cons, pairUp_cons]
        cases a'.eval columns <;> cases b'.eval columns <;>
          cases pairUp (evalEach columns l) (evalEach columns r) <;> rfl
  | [], _ :: _, hlen, _, _, _ => by simp at hlen
  | _ :: _, [], hlen, _, _, _ => by simp at hlen
  | [_], _ :: _ :: _, hlen, _, _, _ => by simp at hlen
  | _ :: _ :: _, [_], hlen, _, _, _ => by simp at hlen

/-- **Comparison of rows, value by value.** -/
theorem eval_rowsCompared (op : CompareOp) {l r : Row} (hlen : l.length = r.length) :
    (Condition.rowsCompared l op r).eval columns =
      (pairUp (evalEach columns l) (evalEach columns r)).map (Truth.compareRows op) := by
  -- each of the four orders is one of the ways to precede
  have hordered : (Condition.any (Condition.rowsOrdered op [] l r)).eval columns =
      (pairUp (evalEach columns l) (evalEach columns r)).map fun pairs =>
        Truth.any (Truth.waysToPrecede op [] pairs) := by
    rw [Condition.eval_any, Condition.eval_or,
      evalAll_rowsOrdered columns op hlen (evalAll_nil columns)]
    cases pairUp (evalEach columns l) (evalEach columns r) <;> rfl
  cases op with
  | eq => exact eval_rowsEqual columns l r
  | ne =>
    rw [Condition.rowsCompared, Condition.eval_not, eval_rowsEqual]
    cases pairUp (evalEach columns l) (evalEach columns r) <;> rfl
  | lt => exact hordered
  | le => exact hordered
  | gt => exact hordered
  | ge => exact hordered

/-- A comparison of rows and its detour agree, also on rows of different widths. -/
theorem eval_expandRowCompare (l : Row) (op : CompareOp) (r : Row) :
    (Evaluated.ofExcept (Condition.expandRowCompare l op r) >>= Condition.eval columns) =
      (Condition.rowCompare l op r).eval columns := by
  change _ = Truth.rowCompare (evalEach columns l) op (evalEach columns r)
  rw [Truth.rowCompare, checkOutcomes, Condition.expandRowCompare,
    Condition.checkWidth]
  simp only [length_evalEach]
  split
  next hlen =>
    change (Condition.rowsCompared l op r).eval columns = _
    rw [eval_rowsCompared columns op hlen]
    cases pairUp (evalEach columns l) (evalEach columns r) <;> rfl
  next => rfl

/-! ### Memberships -/

lemma evalRows_cons (r : Row) (rs : List Row) :
    evalRows columns (r :: rs) = evalEach columns r :: evalRows columns rs :=
  rfl

/-- All rows of a list have the width of a row, or the first one that has not is the error. -/
lemma forM_checkOutcomes (row : Row) (list : List Row) :
    (evalRows columns list).forM (checkOutcomes (evalEach columns row)) =
      .ofExcept (list.forM (Condition.checkWidth row)) := by
  induction list with
  | nil => rfl
  | cons r rs ih =>
    rw [evalRows_cons, List.forM_eq_forM, List.forM_eq_forM, List.forM_cons, List.forM_cons,
      ← List.forM_eq_forM, ih, ← List.forM_eq_forM]
    simp only [checkOutcomes, Condition.checkWidth, length_evalEach]
    split <;> rfl

lemma checkWidth_eq_ok {row r : Row} :
    Condition.checkWidth row r = .ok () ↔ row.length = r.length := by
  rw [Condition.checkWidth]
  split <;> simp_all

lemma forM_checkWidth_eq_ok {row : Row} {list : List Row} :
    list.forM (Condition.checkWidth row) = .ok () ↔ ∀ r ∈ list, row.length = r.length := by
  induction list with
  | nil => simp [pure, Except.pure]
  | cons r rs ih =>
    rw [List.forM_eq_forM, List.forM_cons, ← List.forM_eq_forM, List.forall_mem_cons, ← ih,
      ← checkWidth_eq_ok]
    cases Condition.checkWidth row r <;> simp

/-- The comparisons of a row with the rows of a list, evaluated. -/
lemma evalAll_rowsCompared (op : CompareOp) {row : Row} {list : List Row}
    (hlen : ∀ r ∈ list, row.length = r.length) :
    evalAll columns (list.map (Condition.rowsCompared row op)) =
      ((evalRows columns list).mapM (pairUp (evalEach columns row))).map
        (List.map (Truth.compareRows op)) := by
  induction list with
  | nil => rfl
  | cons r rs ih =>
    obtain ⟨hr, hrs⟩ := List.forall_mem_cons.mp hlen
    rw [List.map_cons, evalAll_cons, ih hrs, evalRows_cons, List.mapM_cons,
      eval_rowsCompared columns op hr]
    cases pairUp (evalEach columns row) (evalEach columns r) <;>
      cases (evalRows columns rs).mapM (pairUp (evalEach columns row)) <;> rfl

/-- A row in a list of rows and its detour agree. -/
theorem eval_expandRowIn (row : Row) (list : List Row) (negate : Bool) :
    (Evaluated.ofExcept (Condition.expandRowIn row list negate) >>= Condition.eval columns) =
      (Condition.rowInList row list negate).eval columns := by
  change _ = Truth.rowInList (evalEach columns row) (evalRows columns list) negate
  rw [Truth.rowInList, forM_checkOutcomes, Condition.expandRowIn]
  cases hw : list.forM (Condition.checkWidth row) with
  | error e => rfl
  | ok u =>
    -- the widths have passed, so the rows can be compared value by value
    have hlen := forM_checkWidth_eq_ok.mp hw
    cases negate with
    | false =>
      change (Condition.any (list.map (Condition.rowsCompared row .eq))).eval columns = _
      rw [Condition.eval_any, Condition.eval_or, evalAll_rowsCompared columns .eq hlen]
      cases (evalRows columns list).mapM (pairUp (evalEach columns row)) with
      | error e => rfl
      | ok pairs =>
        simp only [ok_map, ok_bind, Truth.negateIf_false]
        rfl
    | true =>
      change (Condition.all (list.map (Condition.rowsCompared row .ne))).eval columns = _
      rw [Condition.eval_all, Condition.eval_and, evalAll_rowsCompared columns .ne hlen]
      cases (evalRows columns list).mapM (pairUp (evalEach columns row)) with
      | error e => rfl
      | ok pairs =>
        simp only [ok_map, ok_bind, Truth.negateIf_true, Truth.not_any, List.map_map]
        rfl

/-! ### NULL -/

lemma collect_cons (o : Outcome) (os : List Outcome) :
    collect (o :: os) = do
      let v ← o
      let vs ← collect os
      return v :: vs := by
  rw [collect, List.mapM_cons]; rfl

lemma collect_map_ok (vs : List Value) : collect (vs.map .ok) = .ok vs := by
  induction vs with
  | nil => rfl
  | cons v vs ih => rw [List.map_cons, collect_cons, ih]; rfl

lemma eval_isNull (e : Expr) (negate : Bool) :
    (Condition.isNull e negate).eval columns = do
      return some ((← e.eval columns).isNull != negate) :=
  rfl

lemma eval_rowIsNull (row : Row) (negate : Bool) :
    (Condition.rowIsNull row negate).eval columns = do
      return Truth.rowIsNull (← collect (evalEach columns row)) negate :=
  rfl

/-- The tests of the values of a row for NULL, evaluated. -/
lemma evalAll_isNull (row : Row) (negate : Bool) :
    evalAll columns (row.map fun e => .isNull e negate) =
      (collect (evalEach columns row)).map
        (List.map fun v => some (v.isNull != negate)) := by
  induction row with
  | nil => rfl
  | cons e es ih =>
    rw [List.map_cons, evalAll_cons, ih, evalEach_cons, collect_cons, eval_isNull]
    cases e.eval columns <;> cases collect (evalEach columns es) <;> rfl

/-- A row that is NULL and its detour agree. -/
theorem eval_expandRowIsNull (row : Row) (negate : Bool) :
    (Condition.expandRowIsNull row negate).eval columns =
      (Condition.rowIsNull row negate).eval columns := by
  rw [Condition.expandRowIsNull, Condition.eval_all, Condition.eval_and, evalAll_isNull,
    eval_rowIsNull]
  cases collect (evalEach columns row) with
  | error e => rfl
  | ok vs => simp only [ok_map, Truth.all_map_some]; rfl

/-! ### Bounds -/

lemma eval_between (e low high : Expr) (negate symmetric : Bool) :
    (Condition.between e low high negate symmetric).eval columns = do
      let v ← e.eval columns
      let l ← low.eval columns
      let h ← high.eval columns
      return Truth.between v l h negate symmetric :=
  rfl

/-- A value between two others in either order, and its detour agree. -/
theorem eval_expandBetween {e low high : Expr} {negate symmetric : Bool} {c : Condition}
    (h : Condition.expandBetween e low high negate symmetric = some c) :
    c.eval columns = (Condition.between e low high negate symmetric).eval columns := by
  rw [Condition.expandBetween] at h
  split at h
  next hs =>
    obtain rfl := Option.some.inj h
    subst hs
    cases negate <;>
    · simp only [Bool.false_eq_true, if_false, if_true, Condition.eval_or, Condition.eval_and,
        evalAll_cons, evalAll_nil, eval_between]
      cases e.eval columns <;> cases low.eval columns <;> cases high.eval columns <;>
        simp only [ok_bind, error_bind, Truth.between, Truth.negateIf_true, Truth.negateIf_false,
          Truth.not_any, Bool.false_eq_true, if_false, if_true] <;> rfl
  next => cases h

/-- Two bounds of a row, evaluated. -/
lemma eval_rowBounds {row low high : Row} (hlow : row.length = low.length)
    (hhigh : row.length = high.length) :
    (Condition.both (.rowsCompared row .ge low) (.rowsCompared row .le high)).eval columns = do
      let lows ← pairUp (evalEach columns row) (evalEach columns low)
      let highs ← pairUp (evalEach columns row) (evalEach columns high)
      return Truth.all [Truth.compareRows .ge lows, Truth.compareRows .le highs] := by
  rw [Condition.eval_both, Condition.eval_and, evalAll_cons, evalAll_cons, evalAll_nil,
    eval_rowsCompared columns .ge hlow, eval_rowsCompared columns .le hhigh]
  cases pairUp (evalEach columns row) (evalEach columns low) <;>
    cases pairUp (evalEach columns row) (evalEach columns high) <;> rfl

/-- A row between two others and its detour agree. -/
theorem eval_expandRowBetween (row low high : Row) (negate symmetric : Bool) :
    (Evaluated.ofExcept (Condition.expandRowBetween row low high negate symmetric) >>=
        Condition.eval columns) =
      (Condition.rowBetween row low high negate symmetric).eval columns := by
  change _ = Truth.rowBetween (evalEach columns row) (evalEach columns low) (evalEach columns high)
    negate symmetric
  rw [Truth.rowBetween, Condition.expandRowBetween]
  simp only [checkOutcomes, Condition.checkWidth, length_evalEach]
  by_cases hlow : row.length = low.length
  · by_cases hhigh : row.length = high.length
    · simp only [if_pos hlow, if_pos hhigh]
      -- `SYMMETRIC` asks for the bounds in either order
      have hplain := eval_rowBounds columns hlow hhigh
      have hturned := eval_rowBounds columns hhigh hlow
      cases negate <;> cases symmetric <;>
      · simp only [ok_bind, Evaluated.ofExcept_pure, Bool.false_eq_true, if_false, if_true,
          Condition.eval_not, Condition.eval_either, Condition.eval_or, evalAll_cons, evalAll_nil,
          hplain, hturned]
        cases pairUp (evalEach columns row) (evalEach columns low) <;>
          cases pairUp (evalEach columns row) (evalEach columns high) <;>
          simp [Truth.negateIf_true]
    · simp only [if_pos hlow, if_neg hhigh]; rfl
  · simp only [if_neg hlow]; rfl

/-! ### Exclusive disjunction -/

lemma eval_xor (c d : Condition) :
    (Condition.xor c d).eval columns = do
      let s ← c.eval columns
      let t ← d.eval columns
      return s.xor t :=
  rfl

/-- `XOR` and its detour agree. -/
theorem eval_expandXor (c d : Condition) :
    (Condition.expandXor c d).eval columns = (Condition.xor c d).eval columns := by
  rw [Condition.expandXor, eval_xor]
  simp only [Condition.eval_or, Condition.eval_and, Condition.eval_not, evalAll_cons, evalAll_nil]
  rcases c.eval columns with _ | (_ | _ | _) <;> rcases d.eval columns with _ | (_ | _ | _) <;> rfl

end

end Polysql

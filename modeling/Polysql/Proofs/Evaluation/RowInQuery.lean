import Std.Data.String.ToNat
import Polysql.Proofs.Evaluation.Row
import Polysql.Proofs.Value.Order
/-!
A row in a query, and the detour that looks for an equal row of the query. The detour is two-valued:
a membership that is unknown because of NULL becomes false, and its negation true. So the detour is
right exactly where the membership is true or false (`eval_expandRowInSelect_iff`), provided that no
column of the row is taken for one of the table that the detour introduces.
-/

namespace Polysql

/-! ### Looking for a row -/

/-- Columns that have the values of a row, found by the texts of their names, and other columns as
they are outside. -/
def Bindings.over (outer : Bindings) (names : List Name) (row : List Value) : Bindings :=
  fun name => (List.lookup name.text ((names.map Name.text).zip row)).or (outer name)

/-- The names of the columns of a table under its alias. -/
def TableAlias.qualified (t : TableAlias) : List Name :=
  t.columns.map (t.name ++ ·)

/-- Whether a query on one derived table yields a row: one of the rows of the table meets its
condition. -/
def Select.finds (outer : Bindings) (rows : List (List Value)) (q : Select) : Evaluated Bool :=
  match q.tables, q.filter? with
  | [.derived _ called], some c => do
    let truths ← rows.mapM fun r => c.eval (outer.over called.qualified r)
    return truths.contains (some true)
  | _, _ => refuse "cannot evaluate a subquery"

/-- The truth of a condition where the derived table of an `EXISTS` has some rows. -/
def Condition.evalOn (outer : Bindings) (rows : List (List Value)) : Condition → Evaluated Truth
  | .hasRows q negate => do return some ((← q.finds outer rows) != negate)
  | c => c.eval outer

/-! ### The columns of the detour -/

/-- The table that the detour of a row in a query introduces. -/
def rowInSelectAlias (width : Nat) : TableAlias :=
  ⟨Name.ofText "t", numberedColumns width⟩

lemma text_numbered (n : Nat) :
    (Name.ofText "t" ++ Name.ofText ("c" ++ Nat.repr n)).text = "t.c" ++ Nat.repr n := by
  have hname : (Name.ofText "t" ++ Name.ofText ("c" ++ Nat.repr n)).text =
      "t." ++ ("c" ++ Nat.repr n) := by
    simp [Name.text, Name.ofText, Name.ofTexts, Name.ofTextsWith, NamePart.ofText?, Text.joined]
  rw [hname, ← String.append_assoc]
  rfl

lemma qualified_rowInSelectAlias (width : Nat) :
    (rowInSelectAlias width).qualified.map Name.text =
      (List.range width).map fun i => "t.c" ++ Nat.repr (i + 1) := by
  simp only [rowInSelectAlias, TableAlias.qualified, numberedColumns, columnNames, List.map_map]
  exact List.map_congr_left fun i _ => text_numbered (i + 1)

/-- The columns of the detour have different names. -/
lemma nodup_rowInSelectAlias (width : Nat) :
    ((rowInSelectAlias width).qualified.map Name.text).Nodup := by
  rw [qualified_rowInSelectAlias]
  refine List.Pairwise.map _ (fun i j hne htext => hne ?_) List.nodup_range
  have hrepr : Nat.repr (i + 1) = Nat.repr (j + 1) := by simpa using htext
  have := Nat.repr_injective hrepr
  omega

/-! ### Columns on top of others -/

/-- The columns that lie on top have the values of the row. -/
lemma evalEach_over (outer : Bindings) :
    ∀ {names : List Name} {row : List Value}, names.length = row.length →
      (names.map Name.text).Nodup →
      evalEach (outer.over names row) (names.map Expr.column) = row.map .ok
  | [], [], _, _ => by rw [List.map_nil, evalEach]; rfl
  | [], _ :: _, hlen, _ => by simp at hlen
  | _ :: _, [], hlen, _ => by simp at hlen
  | name :: names, v :: row, hlen, hnodup => by
    obtain ⟨hname, hnames⟩ := List.nodup_cons.mp hnodup
    have hrest : evalEach (outer.over (name :: names) (v :: row)) (names.map Expr.column) =
        evalEach (outer.over names row) (names.map Expr.column) := by
      rw [evalEach_eq_map, evalEach_eq_map, List.map_map, List.map_map]
      refine List.map_congr_left fun n hn => ?_
      -- the name in front is none of the others, so looking for these passes over it
      have hne : (n.text == name.text) = false := by
        rw [beq_eq_false_iff_ne]
        exact fun htext => hname (htext ▸ List.mem_map_of_mem hn)
      have hover : outer.over (name :: names) (v :: row) n = outer.over names row n := by
        simp only [Bindings.over, List.map_cons, List.zip_cons_cons, List.lookup_cons, hne]
      simp only [Function.comp_apply, Expr.column, Expr.eval, hover]
    have hfirst : (Expr.column name).eval (outer.over (name :: names) (v :: row)) = .ok v := by
      simp only [Expr.column, Expr.eval, Bindings.over, List.map_cons, List.zip_cons_cons,
        List.lookup_cons_self, Option.some_or]
    rw [List.map_cons, evalEach_cons, hfirst, hrest,
      evalEach_over outer (by simpa using hlen) hnames, List.map_cons]

/-! ### Equality, turned round -/

lemma Truth.compare_eq_comm (a b : Value) : Truth.compare a .eq b = Truth.compare b .eq a :=
  Value.equal?_comm a b

lemma Truth.rowsEqual_swap (pairs : List (Value × Value)) :
    Truth.rowsEqual (pairs.map Prod.swap) = Truth.rowsEqual pairs := by
  rw [Truth.rowsEqual, Truth.rowsEqual, List.map_map]
  exact congrArg Truth.all (List.map_congr_left fun (a, b) _ => Truth.compare_eq_comm b a)

lemma pairUp_swap : ∀ (row : List Value) (os : List Outcome),
    pairUp (row.map .ok) os = (pairUp os (row.map .ok)).map (List.map Prod.swap)
  | [], [] => rfl
  | [], _ :: _ => rfl
  | _ :: _, [] => rfl
  | v :: row, o :: os => by
    rw [List.map_cons, pairUp_cons, pairUp_cons, pairUp_swap row os]
    cases o <;> cases pairUp os (row.map .ok) <;> rfl

/-! ### The detour -/

section

variable {outer : Bindings} {row : Row} {q : Select} {rows : List (List Value)}

/-- The condition of the detour compares the columns of the table with the row. -/
lemma matching_eq (row : Row) :
    Condition.all ((row.zip (numberedColumns row.length)).map fun (e, c) =>
        .equals (.column (Name.ofText "t" ++ c)) e) =
      .rowsEqual ((rowInSelectAlias row.length).qualified.map Expr.column) row := by
  rw [Condition.rowsEqual, TableAlias.qualified, rowInSelectAlias, List.map_map,
    List.zipWith_map_left, List.zipWith_comm, List.zip, List.map_zipWith]
  rfl

/-- Where columns have the values of some row, their equality with another row is that of the two
rows. -/
lemma eval_rowsEqual_columns {columns : Bindings} {names : List Name} {r : List Value}
    (hvalues : evalEach columns (names.map Expr.column) = r.map .ok) (row : Row) :
    (Condition.rowsEqual (names.map Expr.column) row).eval columns =
      (pairUp (evalEach columns row) (r.map .ok)).map Truth.rowsEqual := by
  rw [eval_rowsEqual, hvalues, pairUp_swap]
  cases pairUp (evalEach columns row) (r.map .ok) with
  | error e => rfl
  | ok pairs => exact congrArg Except.ok (Truth.rowsEqual_swap pairs)

lemma length_qualified_rowInSelectAlias (width : Nat) :
    (rowInSelectAlias width).qualified.length = width := by
  simp [rowInSelectAlias, TableAlias.qualified, numberedColumns, columnNames]

/-- On one row of the query, the condition of the detour is as true as the equality of the rows. -/
lemma eval_matching {r : List Value} (hw : r.length = row.length) :
    (Condition.rowsEqual ((rowInSelectAlias row.length).qualified.map Expr.column) row).eval
        (outer.over (rowInSelectAlias row.length).qualified r) =
      (pairUp (evalEach (outer.over (rowInSelectAlias row.length).qualified r) row)
        (r.map .ok)).map Truth.rowsEqual :=
  eval_rowsEqual_columns
    (evalEach_over outer ((length_qualified_rowInSelectAlias _).trans hw.symm)
      (nodup_rowInSelectAlias row.length)) row

/-- The detour of a row in a query, evaluated on the rows of the query: it is true or false, as the
row is equal to one of them or not. The columns of the table lie on top of those outside. -/
theorem eval_expandRowInSelect (hq : q.fields.length = row.length)
    (hw : ∀ r ∈ rows, r.length = row.length) (negate : Bool) :
    (Evaluated.ofExcept (Condition.expandRowInSelect row q negate) >>=
        Condition.evalOn outer rows) =
      (rows.mapM fun r =>
        (pairUp (evalEach (outer.over (rowInSelectAlias row.length).qualified r) row)
          (r.map .ok)).map Truth.rowsEqual).map
        fun truths => some (truths.contains (some true) != negate) := by
  have hexpand : Condition.expandRowInSelect row q negate = .ok (.hasRows
      { fields := [⟨.number 1, none⟩]
        tables := [.derived q (rowInSelectAlias row.length)]
        filter? := some
          (.rowsEqual ((rowInSelectAlias row.length).qualified.map Expr.column) row) }
      negate) := by
    rw [← matching_eq, Condition.expandRowInSelect, if_neg fun h => h hq]
    rfl
  have hrows : (rows.mapM fun r =>
      (Condition.rowsEqual ((rowInSelectAlias row.length).qualified.map Expr.column) row).eval
        (outer.over (rowInSelectAlias row.length).qualified r)) =
      rows.mapM fun r =>
        (pairUp (evalEach (outer.over (rowInSelectAlias row.length).qualified r) row)
          (r.map .ok)).map Truth.rowsEqual :=
    mapM_congr_left fun r hr => eval_matching (hw r hr)
  rw [hexpand, Evaluated.ofExcept_ok, ok_bind, Condition.evalOn, Select.finds]
  simp only [hrows]
  cases rows.mapM fun r =>
    (pairUp (evalEach (outer.over (rowInSelectAlias row.length).qualified r) row)
      (r.map .ok)).map Truth.rowsEqual <;> rfl

/-- A row in a list of rows of its width. -/
lemma rowInList_of_widths (hw : ∀ r ∈ rows, r.length = row.length) (negate : Bool) :
    Truth.rowInList (evalEach outer row) (rows.map (List.map .ok)) negate =
      (rows.mapM fun r => (pairUp (evalEach outer row) (r.map .ok)).map Truth.rowsEqual).map
        fun truths => Truth.negateIf negate (Truth.any truths) := by
  have hcheck : (rows.map (List.map (Except.ok (ε := Failure)))).forM
      (checkOutcomes (evalEach outer row)) = .ok () := by
    induction rows with
    | nil => rfl
    | cons r rs ih =>
      obtain ⟨hr, hrs⟩ := List.forall_mem_cons.mp hw
      rw [List.map_cons, List.forM_eq_forM, List.forM_cons, ← List.forM_eq_forM, ih hrs,
        checkOutcomes, length_evalEach, List.length_map, if_pos hr.symm]
      rfl
  rw [Truth.rowInList, hcheck, ok_bind, List.mapM_map,
    mapM_map_right (fun r : List Value => pairUp (evalEach outer row) (r.map .ok))
      Truth.rowsEqual rows]
  change (rows.mapM (fun r => pairUp (evalEach outer row) (r.map .ok)) >>= _) = _
  cases rows.mapM fun r => pairUp (evalEach outer row) (r.map .ok) <;> rfl

/-- **A row in a query.** Where the columns of the row are not taken for those of the table, the
detour agrees with the membership exactly if the latter is not unknown. Both fail alike. -/
theorem eval_expandRowInSelect_iff (hq : q.fields.length = row.length)
    (hw : ∀ r ∈ rows, r.length = row.length)
    (hfree : ∀ r ∈ rows, evalEach (outer.over (rowInSelectAlias row.length).qualified r) row =
      evalEach outer row) (negate : Bool) :
    (Evaluated.ofExcept (Condition.expandRowInSelect row q negate) >>=
          Condition.evalOn outer rows) =
        Truth.rowInList (evalEach outer row) (rows.map (List.map .ok)) negate ↔
      Truth.rowInList (evalEach outer row) (rows.map (List.map .ok)) negate ≠ .ok none := by
  have hrows : (rows.mapM fun r =>
      (pairUp (evalEach (outer.over (rowInSelectAlias row.length).qualified r) row)
        (r.map .ok)).map Truth.rowsEqual) =
      rows.mapM fun r => (pairUp (evalEach outer row) (r.map .ok)).map Truth.rowsEqual :=
    mapM_congr_left fun r hr => by rw [hfree r hr]
  rw [eval_expandRowInSelect hq hw, rowInList_of_widths hw, hrows]
  cases rows.mapM fun r => (pairUp (evalEach outer row) (r.map .ok)).map Truth.rowsEqual with
  | error e => simp
  | ok truths =>
    have hany : truths.contains (some true) = (Truth.any truths == some true) := by
      rw [Bool.eq_iff_iff, List.contains_iff_mem, beq_iff_eq, Truth.any_eq_true]
    simp only [ok_map, hany]
    cases Truth.any truths with
    | none => simp [Truth.negateIf]
    | some b => cases b <;> cases negate <;> simp [Truth.negateIf]

/-- The column `x`, which is 2, is among the rows 1 and 2. -/
theorem eval_expandRowInSelect_number :
    (Evaluated.ofExcept (Condition.expandRowInSelect [.column (.ofText "x")]
        { fields := [⟨.number 1, none⟩] } false) >>=
          Condition.evalOn (.ofList [("x", .ofNat 2)]) [[.ofNat 1], [.ofNat 2]]) =
      Truth.rowInList (evalEach (.ofList [("x", .ofNat 2)]) [.column (.ofText "x")])
        [[.ok (.ofNat 1)], [.ok (.ofNat 2)]] false :=
  (eval_expandRowInSelect_iff rfl (by decide)
    (List.forall_mem_cons.mpr ⟨rfl, List.forall_mem_cons.mpr ⟨rfl, by simp⟩⟩) false).mpr
    (by rw [show Truth.rowInList _ _ _ = .ok (some true) from rfl]; simp)

/-- The membership of NULL among other values is unknown, and so is its negation; the detour of the
negation is true. -/
theorem eval_expandRowInSelect_null :
    (Evaluated.ofExcept
        (Condition.expandRowInSelect [.null] { fields := [⟨.number 1, none⟩] } true) >>=
        Condition.evalOn .none_ [[.ofNat 1]]) = .ok (some true) ∧
      Truth.rowInList (evalEach .none_ [.null]) [[.ok (.ofNat 1)]] true = .ok none := by
  constructor
  · rw [eval_expandRowInSelect rfl (by decide)]
    rfl
  · rfl

end

end Polysql

import Polysql.Draft.Select
import Polysql.Proofs.Evaluation.Junction
/-!
The rows of tables and queries over a database. Named tables hold arbitrary rows, joins put rows
side by side or select among them as usual, and a condition is met where it is true: neither where
it is false nor where it is unknown. Conditions that need no database are as true as their
evaluation says (`Condition.truth_of_eval`).
-/

namespace Polysql

/-- What the tables of a database hold. -/
structure Database where
  /-- The names that the columns of a table can be referred to by. -/
  columns : NamedTable → List Name
  /-- The rows of a table: the values of its columns. -/
  rows : NamedTable → List (Name → Value)

namespace Bindings

/-- The columns of a row, and those outside of it that the row lacks. -/
def or (row outer : Bindings) : Bindings :=
  fun n => (row n).or (outer n)

/-- The row of some columns that has the given values. -/
def ofRow (columns : List Name) (value : Name → Value) : Bindings :=
  fun n => if n ∈ columns then some (value n) else none

/-- The row of NULLs. -/
def nulls (columns : List Name) : Bindings :=
  ofRow columns fun _ => .null

end Bindings

/-- The rows of a join. An outer join completes the rows of its left side that meet no other by
NULLs. Of the joins that take a condition, right and full ones have no rows here; nor have natural
joins and those that compute their right side anew. -/
def JoinType.rows (type : JoinType) (nulls : Bindings) (left right : List Bindings)
    (meets : Bindings → Bindings → Bool) : List Bindings :=
  match type with
  | .cross => left.flatMap fun a => right.map a.or
  | .inner => left.flatMap fun a => (right.filter (meets a)).map a.or
  | .left => left.flatMap fun a =>
    if (right.filter (meets a)).isEmpty then [a.or nulls] else (right.filter (meets a)).map a.or
  | .leftSemi => left.filter fun a => !(right.filter (meets a)).isEmpty
  | .leftAnti => left.filter fun a => (right.filter (meets a)).isEmpty
  | _ => []

/-- The columns of a named table, or of a join of such tables. -/
def Table.columns (db : Database) : Table → List Name
  | .named t => db.columns t
  | .join ⟨l, r, type, _, _⟩ =>
    if type.isSemiOrAnti then l.columns db else l.columns db ++ r.columns db
  | _ => []

/-- An expression that has a value for each row alone. -/
def Expr.isRowwise : Expr → Bool
  | .constant _ | .field _ _ | .asterisk _ => true
  | _ => false

/-- The query selects something of the rows that meet its condition, and does nothing else. -/
def Select.isPlain : Select → Bool
  | ⟨none, none, fields, _, _, [], none, [], [], none, false⟩ => fields.all (·.expr.isRowwise)
  | _ => false

mutual

/-- The truth of a condition where columns have some values. `EXISTS` looks for the rows of a plain
query. What cannot be evaluated is unknown. -/
def Condition.truth (db : Database) : Condition → Bindings → Truth
  | .hasRows q negate, b => if q.isPlain then some ((q.rows db b).isEmpty == negate) else none
  | .not c, b => (c.truth db b).not
  | .and cs, b => .all (truths db cs b)
  | .or cs, b => .any (truths db cs b)
  | .xor c d, b => (c.truth db b).xor (d.truth db b)
  | c, b => (c.eval b).toOption.join

/-- The truths of several conditions. -/
def truths (db : Database) : List Condition → Bindings → List Truth
  | [], _ => []
  | c :: cs, b => c.truth db b :: truths db cs b

/-- The truth of a condition that may be absent; nothing is asked then. -/
def truthOfFilter (db : Database) : Option Condition → Bindings → Truth
  | none, _ => some true
  | some c, b => c.truth db b

/-- The rows of the tables of a query that meet its condition. -/
def Select.rows (db : Database) : Select → Bindings → List Bindings
  | ⟨_, _, _, tables, filter?, _, _, _, _, _, _⟩, b =>
    (rowsOfTables db tables b).filter fun row => truthOfFilter db filter? (row.or b) == some true

/-- The rows of several tables side by side, in all combinations. -/
def rowsOfTables (db : Database) : List Table → Bindings → List Bindings
  | [], _ => [Bindings.none_]
  | t :: ts, b => (t.rows db b).flatMap fun a => (rowsOfTables db ts b).map a.or

/-- The rows of a named table, or of a join of such tables. Columns that a condition does not find
in the tables have their values outside. -/
def Table.rows (db : Database) : Table → Bindings → List Bindings
  | .named t, _ => (db.rows t).map (.ofRow (db.columns t))
  | .join ⟨l, r, type, on?, _⟩, b =>
    type.rows (.nulls (r.columns db)) (l.rows db b) (r.rows db b) fun a c =>
      truthOfFilter db on? ((a.or c).or b) == some true
  | _, _ => []

end

/-! ### Truth -/

mutual

/-- A condition that can be evaluated without a database is as true as that says. -/
theorem Condition.truth_of_eval (db : Database) {b : Bindings} :
    ∀ {c : Condition} {t : Truth}, c.eval b = .ok t → c.truth db b = t
  | .not c, t, h => by
    rw [Condition.eval_not, map_eq_ok_iff] at h
    obtain ⟨s, hs, rfl⟩ := h
    rw [Condition.truth, Condition.truth_of_eval db hs]
  | .and cs, t, h => by
    rw [Condition.eval_and, map_eq_ok_iff] at h
    obtain ⟨ts, hs, rfl⟩ := h
    rw [Condition.truth, truths_of_evalAll db hs]
  | .or cs, t, h => by
    rw [Condition.eval_or, map_eq_ok_iff] at h
    obtain ⟨ts, hs, rfl⟩ := h
    rw [Condition.truth, truths_of_evalAll db hs]
  | .xor c d, t, h => by
    rw [Condition.eval] at h
    cases hc : c.eval b with
    | error e => rw [hc] at h; cases h
    | ok s =>
      cases hd : d.eval b with
      | error e => rw [hc, hd] at h; cases h
      | ok u =>
        rw [hc, hd] at h
        cases h
        rw [Condition.truth, Condition.truth_of_eval db hc, Condition.truth_of_eval db hd]
  | .hasRows q negate, t, h => by
    rw [Condition.eval] at h
    cases h
  | .always, t, h | .never, t, h | .compare _ _ _, t, h | .like _, t, h | .between _ _ _ _ _, t, h
  | .inList _ _ _, t, h | .inSelect _ _ _, t, h | .isNull _ _, t, h | .isDistinct _ _ _, t, h
  | .rowCompare _ _ _, t, h | .rowInList _ _ _, t, h | .rowInSelect _ _ _, t, h
  | .rowIsNull _ _, t, h | .rowBetween _ _ _ _ _, t, h | .holds _, t, h => by
    rw [Condition.truth, h]
    · rfl
    all_goals simp

/-- Conditions that can be evaluated are as true as that says. -/
theorem truths_of_evalAll (db : Database) {b : Bindings} :
    ∀ {cs : List Condition} {ts : List Truth}, evalAll b cs = .ok ts → truths db cs b = ts
  | [], ts, h => by
    rw [evalAll_nil] at h
    cases h
    rfl
  | c :: cs, ts, h => by
    rw [evalAll_cons] at h
    cases hc : c.eval b with
    | error e => rw [hc] at h; cases h
    | ok t =>
      cases hcs : evalAll b cs with
      | error e => rw [hc, hcs] at h; cases h
      | ok ts =>
        rw [hc, hcs] at h
        cases h
        rw [truths, Condition.truth_of_eval db hc, truths_of_evalAll db hcs]

end

/-! ### Conditions that are met -/

/-- The condition is true, and neither false nor unknown. -/
def Condition.isMet (db : Database) (b : Bindings) (c : Condition) : Bool :=
  c.truth db b == some true

section

variable (db : Database) (b : Bindings)

lemma truthOfFilter_beq (filter? : Option Condition) :
    (truthOfFilter db filter? b == some true) = filter?.all (Condition.isMet db b) := by
  cases filter? <;> rfl

lemma truths_eq_map (cs : List Condition) : truths db cs b = cs.map fun c => c.truth db b := by
  induction cs with
  | nil => rfl
  | cons c cs ih => rw [truths, ih, List.map_cons]

namespace Condition

@[simp] lemma isMet_always : always.isMet db b = true := rfl

@[simp] lemma isMet_and (cs : List Condition) :
    (and cs).isMet db b = cs.all (isMet db b) := by
  rw [Bool.eq_iff_iff, isMet, truth, beq_iff_eq, Truth.all_eq_true, truths_eq_map,
    List.forall_mem_map, List.all_eq_true]
  simp only [isMet, beq_iff_eq]

lemma isMet_hasRows {q : Select} (hq : q.isPlain) (negate : Bool) :
    (hasRows q negate).isMet db b =
      if negate then (q.rows db b).isEmpty else !(q.rows db b).isEmpty := by
  rw [isMet, truth, if_pos hq]
  cases (q.rows db b).isEmpty <;> cases negate <;> rfl

lemma isMet_both (c d : Condition) :
    (both c d).isMet db b = (c.isMet db b && d.isMet db b) := by
  rw [both.eq_def]
  split <;> simp [List.all_append]

lemma isMet_all (cs : List Condition) : (all cs).isMet db b = cs.all (isMet db b) := by
  have key (c : Condition) :
      (cs.foldl both c).isMet db b = (c.isMet db b && cs.all (isMet db b)) := by
    induction cs generalizing c with
    | nil => simp
    | cons d ds ih => rw [List.foldl_cons, ih, isMet_both, List.all_cons, Bool.and_assoc]
  rw [all, key, isMet_always, Bool.true_and]

/-- A condition and further ones are met together. -/
lemma isMet_joined (filter? : Option Condition) (others : List Condition) :
    (joined filter? others).all (isMet db b) =
      (filter?.all (isMet db b) && others.all (isMet db b)) := by
  rw [joined]
  split
  next h => rw [List.isEmpty_iff.mp h, List.all_nil, Bool.and_true]
  · rw [Option.all_some, isMet_all, List.all_append]
    cases filter? <;> simp

end Condition

/-! ### Rows -/

lemma Select.rows_eq (q : Select) :
    q.rows db b = (rowsOfTables db q.tables b).filter fun row =>
      q.filter?.all (Condition.isMet db (row.or b)) := by
  cases q
  simp only [Select.rows, truthOfFilter_beq]

lemma Table.rows_join (l r : Table) (type : JoinType) (on? : Option Condition)
    (using_ : List Name) :
    (Table.join ⟨l, r, type, on?, using_⟩).rows db b =
      type.rows (.nulls (r.columns db)) (l.rows db b) (r.rows db b) fun a c =>
        on?.all (Condition.isMet db ((a.or c).or b)) := by
  simp only [Table.rows, truthOfFilter_beq]

lemma rowsOfTables_cons (t : Table) (ts : List Table) :
    rowsOfTables db (t :: ts) b =
      (t.rows db b).flatMap fun a => (rowsOfTables db ts b).map a.or := rfl

lemma Bindings.or_none_ (row : Bindings) : row.or none_ = row := by
  funext n
  exact Option.or_none

@[simp] lemma rowsOfTables_singleton (t : Table) : rowsOfTables db [t] b = t.rows db b := by
  have hrow : (fun a : Bindings => [a.or Bindings.none_]) = fun a => [a] := by
    funext a
    rw [Bindings.or_none_]
  rw [rowsOfTables_cons]
  change (t.rows db b).flatMap (fun a => [a.or Bindings.none_]) = _
  rw [hrow, List.flatMap_singleton']

end

end Polysql

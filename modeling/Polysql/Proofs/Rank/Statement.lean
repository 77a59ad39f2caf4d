import Polysql.Draft.Statement
import Polysql.Proofs.Outcome
import Polysql.Proofs.Rank.Query
/-!
The ranks of statements. A change that becomes the membership of a key in a query is worth it
(`ChangedRows.rankOfFilter_condition_le`), as is an assignment of a row that becomes one of each
column (`Assignment.rank_of_expand`).
-/

namespace Polysql

lemma rank_le_rankOfAssignments {a : Assignment} {as : List Assignment} (h : a ∈ as) :
    a.rank ≤ rankOfAssignments as :=
  rank_le_highest (fun _ _ => rfl) h

lemma rank_le_rankOfDefaults {c : ColumnDefinition} {cs : List ColumnDefinition} (h : c ∈ cs) :
    rankOfOption c.default? ≤ rankOfDefaults cs :=
  rank_le_highest (f := fun c : ColumnDefinition => rankOfOption c.default?) (fun _ _ => rfl) h

lemma rank_le_rankOfStatements {stmt : Statement} {stmts : List Statement} (h : stmt ∈ stmts) :
    stmt.rank ≤ rankOfStatements stmts :=
  rank_le_highest (fun _ _ => rfl) h

/-- A statement is a step above what it is drafted by. -/
lemma Statement.exists_rank_eq (stmt : Statement) : ∃ k, stmt.rank = k + 1 := by
  cases stmt with
  | dropIndex | truncate | createSequence | dropSequence | dropTable => exact ⟨0, rfl⟩
  | block b =>
    cases b
    exact ⟨_, Nat.add_comm 1 _⟩
  | _ => exact ⟨_, Nat.add_comm 1 _⟩

/-! ### Assignments -/

/-- A query of one of the fields has no higher rank. -/
lemma Select.rank_oneField_le {q : Select} {f : SelectField} (h : f ∈ q.fields) :
    Select.rank { q with fields := [⟨f.expr, none⟩] } ≤ q.rank := by
  have hfield : f.expr.rank ≤ rankOfFields q.fields := rank_le_rankOfFields h
  have hone := f.expr.one_le_rank
  have hfields : rankOfFields [⟨f.expr, none⟩] ≤ rankOfFields q.fields :=
    rankOfFields_le (by omega) (List.forall_mem_singleton.mpr hfield)
  have hparts : 2 + (if q.limit?.isSome then 1 else 0) ≤ q.rank := by
    cases q
    exact Nat.le_add_right _ _
  obtain ⟨k, hk⟩ := Nat.exists_eq_add_of_le hparts
  obtain ⟨hwith, hdistinct, hfields', htables, hfilter, hgroup, hhaving, hsetOps, horder⟩ :=
    Select.rank_le_iff.mp (Nat.le_of_eq hk)
  rw [hk]
  exact Select.rank_le_iff.mpr ⟨hwith, hdistinct, Nat.le_trans hfields hfields', htables, hfilter,
    hgroup, hhaving, hsetOps, horder⟩

/-- An assignment of a row becomes assignments of no higher rank. -/
lemma Assignment.rank_of_expand {a : Assignment} {pairs : List (Name × Expr)}
    (h : a.expand = .ok pairs) : ∀ p ∈ pairs, p.2.rank ≤ a.rank := by
  rw [expand.eq_def] at h
  -- one column, a row of values, or a query that is asked for every column
  split at h
  next c e =>
    cases h
    exact List.forall_mem_singleton.mpr (Nat.le_refl _)
  next columns r =>
    split at h
    · cases h
    · cases h
      exact fun p hp => rank_le_rankOfExprs (List.of_mem_zip hp).2
  next columns q =>
    split at h
    · cases h
    · cases h
      refine List.forall_mem_map.mpr fun p hp => ?_
      exact Nat.add_le_add_left (Select.rank_oneField_le (List.of_mem_zip hp).2) 1

/-! ### Changed rows -/

/-- The parts of a change are twenty steps below it. -/
lemma rankOfChange_le_iff {table : Table} {tables : List Table} {filter? : Option Condition}
    {orderBy : List OrderItem} {returning : List Expr} {k : Nat} :
    rankOfChange table tables filter? orderBy returning ≤ 20 + k ↔
      table.rank ≤ k ∧ rankOfTables tables ≤ k ∧ rankOfFilter filter? ≤ k ∧
        rankOfOrder orderBy ≤ k ∧ rankOfExprs returning ≤ k := by
  rw [rankOfChange, Nat.add_le_add_iff_left]
  simp only [Nat.max_le]

namespace ChangedRows

variable {r : ChangedRows} {s : Scope} {t : Table} {k : Nat}

/-- A bound of the ranks of what restricts the rows of a table. -/
structure PartsWithin (r : ChangedRows) (t : Table) (k : Nat) : Prop where
  table : t.rank ≤ k
  filter? : rankOfFilter r.filter? ≤ k
  orderBy : rankOfOrder r.orderBy ≤ k

lemma rank_of_identifying {n : NamedTable} {key : List Expr} (h : identifying s n = .ok key) :
    ∀ e ∈ key, e.rank = 1 := by
  rw [identifying] at h
  split at h
  · cases h
    exact List.forall_mem_map.mpr fun c _ => rfl
  · split at h
    · cases h
      exact List.forall_mem_singleton.mpr rfl
    · cases h

lemma rank_query_le (h : r.PartsWithin t k) {key : List Expr} (hkey : ∀ e ∈ key, e.rank = 1) :
    (r.query t key).rank ≤ 3 + k := by
  have hk : 1 ≤ k := Nat.le_trans t.one_le_rank h.table
  have hfields : rankOfFields (key.map fun e => ⟨e, none⟩) ≤ k :=
    rankOfFields_le hk (List.forall_mem_map.mpr fun e he => (hkey e he).symm ▸ hk)
  have htables : rankOfTables [t] ≤ k := Nat.max_le.mpr ⟨h.table, hk⟩
  have hquery : r.query t key =
      { fields := key.map fun e => ⟨e, none⟩
        tables := [t]
        filter? := r.filter?
        orderBy := r.orderBy
        limit? := r.limit?.map fun n => ⟨some n, none⟩ } := by
    rw [query, Select.addFields_eq]
    rfl
  rw [hquery]
  exact Select.rank_le_of_partsWithin
    ⟨hk, hk, hfields, htables, h.filter?, hk, hk, hk, h.orderBy⟩

/-- The membership of a key is worth the change of the rows. -/
lemma rankOfFilter_condition_le (h : r.PartsWithin t k) {c : Option Condition}
    (hc : r.condition s t = .ok c) : rankOfFilter c ≤ 13 + k := by
  have hk : 1 ≤ k := Nat.le_trans t.one_le_rank h.table
  rw [condition] at hc
  -- only a limited change goes by the key, and only that of a table with a name
  split at hc
  · cases t with
    | named n =>
      rw [keyCondition] at hc
      cases hkey : identifying s n with
      | error e =>
        rw [hkey] at hc
        cases hc
      | ok key =>
        rw [hkey, ok_bind] at hc
        cases hc
        have hquery := rank_query_le h (rank_of_identifying hkey)
        split
        next e =>
          have he := rank_of_identifying hkey e (List.mem_singleton_self e)
          rw [rankOfFilter_some, Condition.rank_inSelect]
          omega
        next =>
          have hrow := rankOfExprs_le hk fun e he => (rank_of_identifying hkey e he).symm ▸ hk
          rw [rankOfFilter_some, Condition.rank_rowInSelect]
          omega
    | _ => cases hc
  · cases hc
    exact Nat.le_trans h.filter? (by omega)

end ChangedRows

/-- The condition on rows of further tables is worth the delete. -/
lemma Delete.rankOfFilter_condition_le (s : Scope) (d : Delete) {k : Nat}
    (hk : 1 ≤ k) (htables : rankOfTables d.tables ≤ k) (hfilter : rankOfFilter d.filter? ≤ k) :
    rankOfFilter (Writers.deleteCondition s d) ≤ 3 + k := by
  rw [Writers.deleteCondition]
  split
  · omega
  · have hfields : rankOfFields [⟨.number 1, none⟩] ≤ k := Nat.max_le.mpr ⟨hk, hk⟩
    have hparts : Select.PartsWithin
        { fields := [⟨.number 1, none⟩], tables := d.tables, filter? := d.filter? } k :=
      Select.partsWithin_plain hk hfields htables hfilter hk
    have hquery := Select.rank_le_of_unlimited rfl hparts
    exact Nat.le_trans (Nat.add_le_add_left hquery 1) (by omega)

end Polysql

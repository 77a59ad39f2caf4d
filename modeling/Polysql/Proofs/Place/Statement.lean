import Polysql.Proofs.Place.Query
import Polysql.Proofs.Rank.Statement
/-!
Statements at another place. Changes of rows move as their parts do, and so do definitions, unless
their existence check is a block around them: that one depends on the block it stands in
(`Writers.Moves.draftStatement`).
-/

namespace Polysql

namespace Move

variable (m : Move) (s : Scope)

/-! ### Places -/

lemma scope_writtenOut : m.scope s.writtenOut = (m.scope s).writtenOut := by
  cases s; rfl

lemma scope_unqualified : m.scope s.unqualified = (m.scope s).unqualified := by
  cases s; rfl

lemma condition_scope (r : ChangedRows) (t : Table) :
    r.condition (m.scope s) t = r.condition s t := by
  cases s; rfl

lemma deleteCondition_scope (d : Delete) :
    Writers.deleteCondition (m.scope s) d = Writers.deleteCondition s d := by
  cases s; rfl

@[simp] lemma scope_tableInfo? (name : Name) : (m.scope s).tableInfo? name = s.tableInfo? name := by
  cases s; rfl

end Move

/-! ### Definitions -/

/-- The engine has a check that is asked for, if the definition is not guarded. -/
lemma Scope.has_check {s : Scope} {stmt : Statement} {g : Guard} {asked : Bool}
    (hg : stmt.guard? = if asked then some g else none) (h : stmt.isGuarded s.dialect = false) :
    asked = true → s.has g.check = true := by
  rintro rfl
  simpa [Statement.isGuarded, Scope.has, hg] using h

namespace Guard

variable {m : Move} {s : Scope}

/-- A definition moves with its check, if the check is no block around it. -/
lemma draft_draft (g : Guard) {asked : Bool} (h : asked = true → s.has g.check = true)
    {definition definition' : Scope → Bool → Draft}
    (hd : m.draft s.dialect (definition s asked) = definition' (m.scope s) asked) :
    m.draft s.dialect (g.draft s asked definition) = g.draft (m.scope s) asked definition' := by
  have hclause : (asked && !s.has g.check) = false := by
    cases asked with
    | false => rfl
    | true => simp [h rfl]
  rw [draft, draft, Move.scope_has, hclause]
  exact hd

end Guard

namespace Writers

variable {m : Move} (s : Scope)

@[simp] lemma draft_sequenceNumber (d : Dialect) (words : String) (n? : Option Int64) :
    m.draft d (sequenceNumber words n?) = sequenceNumber words n? :=
  Move.draft_ofOption fun n _ => by simp [Draft.integer]

lemma draft_dropTable (d : DropTable)
    (h : d.ifExists = true → s.has Feature.dropTableIfExists = true) :
    m.draft s.dialect (dropTable s d) = dropTable (m.scope s) d := by
  have hby (words : String) :
      m.draft s.dialect (dropTableBy s d words) = dropTableBy (m.scope s) d words :=
    Guard.dropTable.draft_draft h (by simp [Draft.ifExists])
  simp [dropTable, hby]

lemma draft_truncate (t : Truncate) :
    m.draft s.dialect (truncate s t) = truncate (m.scope s) t := by
  have hidentity : m.draft s.dialect (.ofOption (fun i =>
        if s.has Feature.truncateIdentity then Draft.text (identityWords i)
        else s.refuse "TRUNCATE .. RESTART IDENTITY") t.identity?) =
      .ofOption (fun i =>
        if s.has Feature.truncateIdentity then Draft.text (identityWords i)
        else s.refuse "TRUNCATE .. RESTART IDENTITY") t.identity? :=
    Move.draft_ofOption fun i _ => by simp
  simp [truncate, truncateTable, hidentity]

lemma draft_dropIndex (d : DropIndex)
    (h : d.ifExists = true → s.has Feature.dropIndexIfExists = true) :
    m.draft s.dialect (dropIndex s d) = dropIndex (m.scope s) d := by
  have hon (table? : Option Name) :
      m.draft s.dialect (dropIndexOn s d table?) = dropIndexOn (m.scope s) d table? := by
    have htable : m.draft s.dialect (.ofOption (fun t => " ON " ++ Draft.qualified t) table?) =
        .ofOption (fun t => " ON " ++ Draft.qualified t) table? :=
      Move.draft_ofOption fun t _ => by simp
    exact Guard.dropIndex.draft_draft h (by simp [Draft.ifExists, htable])
  simp [dropIndex, hon]

lemma draft_createSequence (c : CreateSequence)
    (h : c.ifNotExists = true → s.has Feature.createSequenceIfNotExists = true) :
    m.draft s.dialect (createSequence s c) = createSequence (m.scope s) c := by
  have hcache : m.draft s.dialect
        (.ofOption (fun n => " CACHE " ++ Draft.number (UInt64.toNat n)) c.cache?) =
      .ofOption (fun n => " CACHE " ++ Draft.number (UInt64.toNat n)) c.cache? :=
    Move.draft_ofOption fun n _ => by simp
  simp only [createSequence, Move.draft_ite, Move.draft_refuse, Move.scope_has, Move.scope_refuse]
  congr 1
  exact Guard.createSequence.draft_draft h (by simp [Draft.ifNotExists, hcache])

lemma draft_dropSequence (d : DropSequence)
    (h : d.ifExists = true → s.has Feature.dropSequenceIfExists = true) :
    m.draft s.dialect (dropSequence s d) = dropSequence (m.scope s) d := by
  simp only [dropSequence, Move.draft_ite, Move.draft_refuse, Move.scope_has, Move.scope_refuse]
  congr 1
  exact Guard.dropSequence.draft_draft h (by simp [Draft.ifExists])

end Writers

namespace Writers.Moves

variable {m : Move} {w w' : Writers} {n : Nat} (hw : Moves m w w' n) (s : Scope)
include hw

lemma createTable {c : CreateTable} (hrank : rankOfDefaults c.columns ≤ n)
    (h : c.ifNotExists = true → s.has Feature.createTableIfNotExists = true) :
    m.draft s.dialect (w.createTable s c) = w'.createTable (m.scope s) c := by
  -- a column moves with its default, which is written out at every place
  have hcolumn (d) (hd : d ∈ c.columns) :
      m.draft s.dialect (w.columnDefinition s.writtenOut d) =
        w'.columnDefinition (m.scope s).writtenOut d := by
    have hdefault : m.draft s.dialect
          (.ofOption (fun e => " DEFAULT " ++ w.expr s.writtenOut e) d.default?) =
        .ofOption (fun e => " DEFAULT " ++ w'.expr (m.scope s).writtenOut e) d.default? :=
      Move.draft_ofOption fun e he => by
        have := rank_le_rankOfDefaults hd
        rw [he, rankOfOption_some] at this
        have hexpr := hw.expr s.writtenOut (e := e) (by omega)
        rw [m.scope_writtenOut] at hexpr
        rw [Move.draft_append, Move.draft_text, ← hexpr]
        rfl
    have htype : s.writtenOut.dialect = (m.scope s).writtenOut.dialect := by cases s; rfl
    simp [columnDefinition, hdefault, htype]
  -- the key holds names only
  have hkey : (primaryKey c.primaryKey).map (m.draft s.dialect) = primaryKey c.primaryKey := by
    rw [primaryKey]
    split <;> simp
  have hparts : m.draft s.dialect (.commas
        (c.columns.map (w.columnDefinition s.writtenOut) ++ primaryKey c.primaryKey)) =
      .commas (c.columns.map (w'.columnDefinition (m.scope s).writtenOut) ++
        primaryKey c.primaryKey) := by
    rw [Move.draft_commas, List.map_append, hkey, List.map_map]
    congr 2
    exact List.map_congr_left hcolumn
  exact Guard.createTable.draft_draft h (by simp [Draft.ifNotExists, hparts])

lemma createIndex {c : CreateIndex} (hrank : rankOfFilter c.filter? ≤ n)
    (h : c.ifNotExists = true → s.has Feature.createIndexIfNotExists = true) :
    m.draft s.dialect (w.createIndex s c) = w'.createIndex (m.scope s) c := by
  have hfilter : m.draft s.dialect
        (.ofOption (fun f => " WHERE " ++ w.condition s.writtenOut.unqualified f) c.filter?) =
      .ofOption (fun f => " WHERE " ++ w'.condition (m.scope s).writtenOut.unqualified f)
        c.filter? :=
    Move.draft_ofOption fun f hf => by
      rw [hf] at hrank
      have hcondition := hw.condition s.writtenOut.unqualified hrank
      rw [m.scope_unqualified, m.scope_writtenOut] at hcondition
      rw [Move.draft_append, Move.draft_text, ← hcondition]
      rfl
  have hon : m.draft s.dialect (w.createIndexOn s c) = w'.createIndexOn (m.scope s) c :=
    Guard.createIndex.draft_draft h (by simp [Draft.ifNotExists, hfilter, Move.draft_commas_same])
  simp [Writers.createIndex, hon]

/-! ### Inserts -/

section

variable {es : List Expr} (hes : rankOfExprs es ≤ n)
include hes

lemma output (rows : String) :
    m.draft s.dialect (w.output s rows es) = w'.output (m.scope s) rows es := by
  have hitems : m.draft s.dialect (.commas (es.map (w.outputItem s rows))) =
      .commas (es.map (w'.outputItem (m.scope s) rows)) :=
    Move.draft_commas_map fun e he => by
      have := rank_le_rankOfExprs he
      rw [Writers.outputItem.eq_def, Writers.outputItem.eq_def]
      split
      · simp
      · simp
      · rw [← m.scope_unqualified]
        exact hw.expr s.unqualified (by omega)
  simp [Writers.output, hitems]

lemma returning (supported : DialectSet) :
    m.draft s.dialect (w.returning s supported es) = w'.returning (m.scope s) supported es := by
  have hexprs : m.draft s.dialect (w.exprs s.unqualified es) =
      w'.exprs (m.scope s).unqualified es :=
    m.scope_unqualified s ▸ hw.exprs s.unqualified hes
  simp [Writers.returning, hexprs]

end

lemma insertRows {rows : List Row} (h : 4 + rankOfRows rows ≤ n) :
    m.draft s.dialect (w.insertRows s rows) = w'.insertRows (m.scope s) rows := by
  have hrows : m.draft s.dialect (" VALUES " ++ Draft.commas (rows.map (w.row s))) =
      " VALUES " ++ Draft.commas (rows.map (w'.row (m.scope s))) := by
    have := Move.draft_commas_map fun r (hr : r ∈ rows) =>
      hw.row s (Nat.le_trans (rankOfExprs_le_rankOfRows hr) (Nat.le_of_add_left_le h))
    simp [this]
  rw [Writers.insertRows.eq_def, Writers.insertRows.eq_def]
  split
  next r r' rs =>
    -- several rows are a union of one select each where only one can be inserted at a time
    have hunion : ((Select.ofRow r).unionAll ((r' :: rs).map Select.ofRow)).rank ≤
        4 + rankOfRows (r :: r' :: rs) :=
      Select.rank_ofRow_unionAll_le fun _ hr => rankOfExprs_le_rankOfRows hr
    rw [Move.draft_ite, hrows, Move.draft_append, hw.select s (Nat.le_trans hunion h),
      Move.draft_text, Move.scope_has]
  · exact hrows

lemma insertDefaults {i : Insert} (h : i.rank ≤ n) :
    m.draft s.dialect (w.insertDefaults s i) = w'.insertDefaults (m.scope s) i := by
  rw [Insert.rank] at h
  have houtput := hw.output s (show rankOfExprs i.returning ≤ n by omega)
  have hdefaults (k : Nat) :
      m.draft s.dialect (.commas (List.replicate k "DEFAULT")) =
        .commas (List.replicate k "DEFAULT") := by
    rw [Move.draft_commas, List.map_replicate, Move.draft_text]
  have hrow : m.draft s.dialect (w.defaultRow s i) = w'.defaultRow (m.scope s) i := by
    simp [defaultRow, knownColumns, columnList, houtput, List.map_const', hdefaults]
  simp [Writers.insertDefaults, houtput, hrow]

lemma insertSource {i : Insert} (h : i.rank ≤ n) :
    m.draft s.dialect (w.insertSource s i) = w'.insertSource (m.scope s) i := by
  have hdefaults := hw.insertDefaults s h
  rw [Insert.rank] at h
  have houtput := hw.output s (show rankOfExprs i.returning ≤ n by omega)
  have hsource (rows : List Row) (hi : i.source = .values rows) : 4 + rankOfRows rows ≤ n := by
    rw [hi, InsertSource.rank] at h
    omega
  have hquery (q : Select) (hi : i.source = .query q) : q.rank ≤ n := by
    rw [hi, InsertSource.rank] at h
    omega
  dsimp only [Writers.insertSource]
  split
  next rows hi => simp [insertColumns, columnList, houtput,
    hw.insertRows s (hsource rows hi)]
  next q hi => simp [insertColumns, columnList, houtput, hw.select s (hquery q hi)]
  · exact hdefaults

/-- The draft of an insert at another place. -/
lemma insert {i : Insert} (h : i.rank ≤ n) :
    m.draft s.dialect (w.insert s i) = w'.insert (m.scope s) i := by
  have hsource := hw.insertSource s h
  rw [Insert.rank] at h
  have hreturning := hw.returning s (show rankOfExprs i.returning ≤ n by omega)
  refine Move.draft_bind fun _ _ => ?_
  simp [Writers.insertValid, hsource, hreturning]

/-! ### Updates and deletes -/

lemma changeEnd {r : ChangedRows} {c : Option Condition} (hc : rankOfFilter c ≤ n)
    (horder : rankOfOrder r.orderBy ≤ n) :
    m.draft s.dialect (w.changeEnd s r c) = w'.changeEnd (m.scope s) r c := by
  have hlimit : m.draft s.dialect
        (.ofOption (fun k => s.clause "LIMIT " ++ Draft.rowCount k) r.limit?) =
      .ofOption (fun k => s.clause "LIMIT " ++ Draft.rowCount k) r.limit? :=
    Move.draft_ofOption fun k _ => by simp
  simp [Writers.changeEnd, ChangedRows.needsKey, hw.whereClause s hc, hw.orderBy s horder, hlimit]

lemma assignment {a : Assignment} (h : a.rank ≤ n) :
    m.draft s.dialect (w.assignment s a) = w'.assignment (m.scope s) a := by
  have hcolumns : m.draft s.dialect (w.columnAssignments s a) =
      w'.columnAssignments (m.scope s) a :=
    Move.draft_bind fun pairs hpairs => Move.draft_commas_map fun p hp => by
      have he := hw.expr s (Nat.le_trans (Assignment.rank_of_expand hpairs p hp) h)
      simp [he]
  rw [Writers.assignment.eq_def, Writers.assignment.eq_def]
  split
  next columns source =>
    -- a row is assigned as it is where the engine can, and column by column elsewhere
    have hsource : m.draft s.dialect (w.rowSource s source) = w'.rowSource (m.scope s) source := by
      cases source with
      | row r => exact hw.row s h
      | query q => exact hw.subquery s (Nat.le_trans (Nat.le_add_left _ 1) h)
    simp [assignsRow, hsource, hcolumns]
  next => exact hcolumns

section

variable {k : Nat} (hk : 17 + k ≤ n) {r : ChangedRows} {c : Option Condition}
include hk

/-- The condition of a change with what its tables take over. -/
lemma changeEnd_joined (hc : rankOfFilter c ≤ 13 + k) (horder : rankOfOrder r.orderBy ≤ k)
    {ts : List Table} (hts : ∀ t ∈ ts, t.rank ≤ k) (d : Dialect) :
    m.draft s.dialect (w.changeEnd s r (Condition.joined c (ts.flatMap (Table.absorbed d)))) =
      w'.changeEnd (m.scope s) r (Condition.joined c (ts.flatMap (Table.absorbed d))) := by
  have hothers : ∀ c ∈ ts.flatMap (Table.absorbed d), c.rank ≤ 13 + k := fun c hc => by
    obtain ⟨t, ht, hct⟩ := List.mem_flatMap.mp hc
    have := t.rank_absorbed_le d c hct
    have := hts t ht
    omega
  have := Condition.rankOfFilter_joined_le (by omega) hc hothers
  exact hw.changeEnd s (by omega) (by omega)

lemma updateWhere {u : Update} (hassignments : ∀ a ∈ u.assignments, a.rank ≤ n)
    (htables : ∀ t ∈ u.table :: u.tables, t.rank ≤ k) (hc : rankOfFilter c ≤ 13 + k)
    (horder : rankOfOrder r.orderBy ≤ k) (hreturning : rankOfExprs u.returning ≤ k) :
    m.draft s.dialect (w.updateWhere s u r c) = w'.updateWhere (m.scope s) u r c := by
  have htable : m.draft s.dialect (w.table s.absorbing u.table) =
      w'.table (m.scope s).absorbing u.table :=
    hw.table s.absorbing (Nat.le_trans (htables _ List.mem_cons_self) (by omega))
  have hassigned := Move.draft_commas_map fun a ha => hw.assignment s (hassignments a ha)
  have hothers : rankOfTables u.tables ≤ n :=
    highest_le rfl rankOfTables_cons (by omega) fun t ht =>
      Nat.le_trans (htables t (List.mem_cons_of_mem _ ht)) (by omega)
  have hend := hw.changeEnd_joined s hk hc horder htables s.dialect
  simp only [Writers.updateWhere, Move.draft_append, Move.draft_text, Move.draft_clause,
    Move.draft_onlyIf, Move.scope_clause, Move.scope_dialect, htable, hassigned, hend,
    hw.output s (show rankOfExprs u.returning ≤ n by omega),
    hw.returning s (show rankOfExprs u.returning ≤ n by omega),
    hw.tables s hothers]

lemma deleteTables {d : Delete} (htable : d.table.rank ≤ k) {using_ : List Table}
    (husing : ∀ t ∈ using_, t.rank ≤ k) (hreturning : rankOfExprs d.returning ≤ k)
    (byReference : Bool) :
    m.draft s.dialect (w.deleteTables s d using_ byReference) =
      w'.deleteTables (m.scope s) d using_ byReference := by
  have hreference : m.draft s.dialect (w.table { s with declareTables := false } d.table) =
      w'.table { m.scope s with declareTables := false } d.table :=
    hw.table { s with declareTables := false } (by omega)
  have hdeclared : m.draft s.dialect (w.table s.absorbing d.table) =
      w'.table (m.scope s).absorbing d.table :=
    hw.table s.absorbing (by omega)
  have husing : rankOfTables using_ ≤ n :=
    highest_le rfl rankOfTables_cons (by omega) fun t ht =>
      Nat.le_trans (husing t ht) (by omega)
  simp [Writers.deleteTables, hreference, hdeclared, hw.tables s husing,
    hw.output s (show rankOfExprs d.returning ≤ n by omega)]

lemma deleteWhere {d : Delete} (htables : ∀ t ∈ d.table :: d.tables, t.rank ≤ k)
    (hc : rankOfFilter c ≤ 13 + k) (horder : rankOfOrder r.orderBy ≤ k)
    (hreturning : rankOfExprs d.returning ≤ k) :
    m.draft s.dialect (w.deleteWhere s d r c) = w'.deleteWhere (m.scope s) d r c := by
  have htable := htables d.table List.mem_cons_self
  have hothers : ∀ t ∈ (if s.has Feature.deleteUsing then d.tables else []), t.rank ≤ k := by
    split
    · exact fun t ht => htables t (List.mem_cons_of_mem _ ht)
    · exact fun t ht => absurd ht List.not_mem_nil
  simp only [Writers.deleteWhere, Move.draft_append, Move.draft_text, Move.scope_has,
    Move.scope_family, Move.scope_dialect,
    hw.returning s (show rankOfExprs d.returning ≤ n by omega)]
  -- the list of the other tables does not change with the place, so it is taken as given
  generalize (if s.has Feature.deleteUsing then d.tables else []) = others at hothers ⊢
  have hall : ∀ t ∈ d.table :: others, t.rank ≤ k := List.forall_mem_cons.mpr ⟨htable, hothers⟩
  generalize (!others.isEmpty && (s.family == .mySql || s.family == .mariaDb)) = byReference
  have hend := hw.changeEnd_joined s hk hc horder hall s.dialect
  cases byReference with
  | false =>
    simp only [Bool.false_eq_true, if_false, hend, hw.deleteTables s hk htable hothers hreturning]
  | true => simp only [if_true, hend, hw.deleteTables s hk htable hall hreturning]

end

/-- The draft of an update at another place. -/
lemma update {u : Update} (h : u.rank ≤ n) :
    m.draft s.dialect (w.update s u) = w'.update (m.scope s) u := by
  rw [Update.rank] at h
  obtain ⟨hassignments, hchange⟩ := Nat.max_le.mp h
  -- the rank has room for the query of keys that an order or a limit is replaced by
  obtain ⟨k, hk⟩ : ∃ k, n = 20 + k := Nat.exists_eq_add_of_le (by
    rw [rankOfChange] at hchange
    omega)
  rw [hk] at hchange
  obtain ⟨htable, htables, hfilter, horder, hreturning⟩ := rankOfChange_le_iff.mp hchange
  have hall : ∀ t ∈ u.table :: u.tables, t.rank ≤ k :=
    List.forall_mem_cons.mpr ⟨htable, fun t ht => Nat.le_trans (rank_le_rankOfTables ht) htables⟩
  have hwhere := Move.draft_bind fun c
      (hc : (ChangedRows.mk u.filter? u.orderBy u.limit?).condition s u.table = .ok c) =>
    hw.updateWhere s (r := ⟨u.filter?, u.orderBy, u.limit?⟩) (by omega)
      (fun a ha => Nat.le_trans (rank_le_rankOfAssignments ha) (by omega)) hall
      (ChangedRows.rankOfFilter_condition_le ⟨htable, hfilter, horder⟩ hc) horder hreturning
  simp only [Writers.update, WholeTablePolicy.check, Move.draft_ite, Move.draft_fail,
    Move.draft_refuse, Move.scope_target, Move.scope_has, Move.scope_refuse, m.condition_scope,
    hwhere]

/-- The draft of a delete at another place. -/
lemma delete {d : Delete} (h : d.rank ≤ n) :
    m.draft s.dialect (w.delete s d) = w'.delete (m.scope s) d := by
  rw [Delete.rank] at h
  obtain ⟨k, hk⟩ : ∃ k, n = 20 + k := Nat.exists_eq_add_of_le (by
    rw [rankOfChange] at h
    omega)
  rw [hk] at h
  obtain ⟨htable, htables, hfilter, horder, hreturning⟩ := rankOfChange_le_iff.mp h
  have hall : ∀ t ∈ d.table :: d.tables, t.rank ≤ 3 + k :=
    List.forall_mem_cons.mpr ⟨Nat.le_trans htable (by omega), fun t ht =>
      Nat.le_trans (rank_le_rankOfTables ht) (by omega)⟩
  have hcondition : rankOfFilter (deleteCondition s d) ≤ 3 + k :=
    d.rankOfFilter_condition_le s (Nat.le_trans d.table.one_le_rank htable) htables hfilter
  have hwhere := Move.draft_bind fun c
      (hc : (ChangedRows.mk (deleteCondition s d) d.orderBy d.limit?).condition s d.table =
        .ok c) =>
    hw.deleteWhere s (k := 3 + k) (r := ⟨deleteCondition s d, d.orderBy, d.limit?⟩) (by omega) hall
      (ChangedRows.rankOfFilter_condition_le
        ⟨Nat.le_trans htable (by omega), hcondition, Nat.le_trans horder (by omega)⟩ hc)
      (Nat.le_trans horder (by omega)) (Nat.le_trans hreturning (by omega))
  simp only [Writers.delete, WholeTablePolicy.check, Move.draft_ite, Move.draft_fail,
    Move.scope_target, m.condition_scope, m.deleteCondition_scope, hwhere]

/-! ### Statements -/

/-- The draft of a statement at another place, apart from blocks and from definitions whose check is
a block. -/
lemma draftStatement {stmt : Statement} (h : stmt.rank ≤ n + 1) (hblock : ∀ b, stmt ≠ .block b)
    (hguard : stmt.isGuarded s.dialect = false) :
    m.draft s.dialect (w.draftStatement s stmt) = w'.draftStatement (m.scope s) stmt := by
  -- without a guard, `IF [NOT] EXISTS` is native wherever it is asked for
  cases stmt with
  | select q => exact hw.select s (Nat.le_of_add_le_add_left (Nat.add_comm n 1 ▸ h))
  | insert i => exact hw.insert s (Nat.le_of_add_le_add_left (Nat.add_comm n 1 ▸ h))
  | update u => exact hw.update s (Nat.le_of_add_le_add_left (Nat.add_comm n 1 ▸ h))
  | delete d => exact hw.delete s (Nat.le_of_add_le_add_left (Nat.add_comm n 1 ▸ h))
  | createIndex c =>
    exact hw.createIndex s (Nat.le_of_add_le_add_left (Nat.add_comm n 1 ▸ h))
      (Scope.has_check rfl hguard)
  | createTable c =>
    exact hw.createTable s (Nat.le_of_add_le_add_left (Nat.add_comm n 1 ▸ h))
      (Scope.has_check rfl hguard)
  | dropIndex d => exact draft_dropIndex s d (Scope.has_check rfl hguard)
  | truncate t => exact draft_truncate s t
  | createSequence c => exact draft_createSequence s c (Scope.has_check rfl hguard)
  | dropSequence d => exact draft_dropSequence s d (Scope.has_check rfl hguard)
  | dropTable d => exact draft_dropTable s d (Scope.has_check rfl hguard)
  | block b => exact absurd rfl (hblock b)

end Writers.Moves

end Polysql

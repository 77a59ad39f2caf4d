import Polysql.Draft.Statement
import Polysql.Proofs.Draft.Query
/-!
The manner of the drafts of statements, and of all parts at every level of writers
(`Writers.level_settled`): changes of rows follow the manner of their place, definitions are written
out, and blocks bind nothing in any of their statements.
-/

namespace Polysql

namespace Scope

variable (s : Scope)

@[simp] lemma manner_unqualified : s.unqualified.manner = s.manner := rfl

@[simp] lemma manner_writtenOut : s.writtenOut.manner = .written := rfl

end Scope

/-! ### Definitions -/

section

variable {m : Manner} (s : Scope)

/-- A definition that is written out stays so behind its check. -/
lemma Guard.follows_draft (g : Guard) (asked : Bool) {definition : Scope → Bool → Draft}
    (h : ∀ s asked, (definition s asked).Follows .written) :
    (g.draft s asked definition).Follows .written := by
  have hembed (wrapping : Wrapping) {d : Draft} (hd : d.Follows .written) :
      (Draft.embed wrapping d).Follows .written :=
    Draft.follows_embed (by decide) wrapping hd
  simp only [Guard.draft, Draft.follows_ite]
  refine ⟨fun _ => ?_, fun _ => h s asked⟩
  dsimp only [Guard.block]
  split <;> simp [postgresBlock, hembed, h]

namespace Writers

lemma follows_sequenceNumber (words : String) (n? : Option Int64) :
    (sequenceNumber words n?).Follows m := by
  simp [sequenceNumber, Draft.integer]

lemma follows_dropTable (d : DropTable) : (dropTable s d).Follows .written := by
  have hby (words : String) : (dropTableBy s d words).Follows .written :=
    Guard.follows_draft s _ _ fun _ _ => by simp [Draft.ifExists]
  simp [dropTable, hby]

lemma follows_truncate (t : Truncate) : (truncate s t).Follows .written := by
  simp [truncate, truncateTable]

lemma follows_dropIndex (d : DropIndex) : (dropIndex s d).Follows .written := by
  have hon (table? : Option Name) : (dropIndexOn s d table?).Follows .written :=
    Guard.follows_draft s _ _ fun _ _ => by simp [Draft.ifExists]
  simp [dropIndex, hon]

lemma follows_createSequence (c : CreateSequence) : (createSequence s c).Follows .written := by
  simp only [createSequence, Draft.follows_ite]
  exact ⟨fun _ => by simp, fun _ => Guard.follows_draft s _ _ fun _ _ => by
    simp [Draft.ifNotExists, follows_sequenceNumber]⟩

lemma follows_dropSequence (d : DropSequence) : (dropSequence s d).Follows .written := by
  simp only [dropSequence, Draft.follows_ite]
  exact ⟨fun _ => by simp, fun _ => Guard.follows_draft s _ _ fun _ _ => by
    simp [Draft.ifExists]⟩

end Writers

end

namespace Writers.Settled

variable {w : Writers} (hw : w.Settled) (s : Scope)
include hw

/-- What stands at a place where values are written out. -/
lemma expr_writtenOut (e : Expr) : (w.expr s.writtenOut e).Follows .written :=
  hw.expr s.writtenOut e

lemma createTable (c : CreateTable) : (w.createTable s c).Follows .written := by
  have hcolumn (s : Scope) (c : ColumnDefinition) :
      (w.columnDefinition s.writtenOut c).Follows .written := by
    simp [columnDefinition, hw.expr_writtenOut]
  refine Guard.follows_draft s _ _ fun s asked => ?_
  have hparts : ∀ d ∈ c.columns.map (w.columnDefinition s.writtenOut) ++ primaryKey c.primaryKey,
      d.Follows .written := by
    refine List.forall_mem_append.mpr ⟨List.forall_mem_map.mpr fun c _ => hcolumn s c, ?_⟩
    rw [primaryKey]
    split <;> simp
  simp [Draft.ifNotExists, Draft.commas, Draft.follows_separated ", " hparts]

lemma createIndex (c : CreateIndex) : (w.createIndex s c).Follows .written := by
  have hfilter (s : Scope) (f : Condition) :
      (w.condition s.writtenOut.unqualified f).Follows .written :=
    hw.condition s.writtenOut.unqualified f
  simp only [Writers.createIndex, createIndexOn, Draft.follows_ite]
  exact ⟨fun _ => by simp, fun _ => Guard.follows_draft s _ _ fun s asked => by
    simp [Draft.ifNotExists, Draft.follows_commas_map, hfilter]⟩

/-! ### Inserts -/

lemma output (rows : String) (returning : List Expr) :
    (w.output s rows returning).Follows s.manner := by
  have hitems := Draft.follows_commas_map (m := s.manner) (l := returning)
    (w.outputItem s rows) fun e _ => by
      rw [Writers.outputItem.eq_def]
      split
      · simp
      · simp
      · exact hw.expr s.unqualified e
  simp [Writers.output, hitems]

lemma returning (supported : DialectSet) (es : List Expr) :
    (w.returning s supported es).Follows s.manner := by
  have hexprs : (w.exprs s.unqualified es).Follows s.manner := hw.exprs s.unqualified es
  simp [Writers.returning, hexprs]

lemma insertRows (rows : List Row) : (w.insertRows s rows).Follows s.manner := by
  have hrows (rows : List Row) :=
    Draft.follows_commas_map (w.row s) fun r (_ : r ∈ rows) => hw.row s r
  rw [Writers.insertRows.eq_def]
  split
  next r r' rs =>
    rw [Draft.follows_ite, Draft.follows_append, Draft.follows_append]
    exact ⟨fun _ => ⟨Draft.follows_text _, fun _ => hw.select s _⟩,
      fun _ => ⟨Draft.follows_text _, fun _ => hrows (r :: r' :: rs)⟩⟩
  · simp [hrows]

lemma insertDefaults (i : Insert) : (w.insertDefaults s i).Follows s.manner := by
  have hdefaults (columns : List Name) :=
    Draft.follows_commas_map (m := s.manner) (fun _ => "DEFAULT")
      fun c (_ : c ∈ columns) => by simp
  have hdefaultRow : (w.defaultRow s i).Follows s.manner := by
    simp only [defaultRow, columnList, Draft.follows_ite, Draft.follows_append, Draft.follows_text,
      Draft.follows_fail, Draft.follows_unqualifiedNames, hw.output, hdefaults, implies_true,
      and_self]
  simp [Writers.insertDefaults, hw.output, hdefaultRow]

lemma insertSource (i : Insert) : (w.insertSource s i).Follows s.manner := by
  dsimp only [Writers.insertSource]
  split <;>
    simp [insertColumns, columnList, hw.output, hw.insertRows, hw.select, hw.insertDefaults]

/-- The draft of an insert. -/
lemma insert (i : Insert) : (w.insert s i).Follows s.manner := by
  simp [Writers.insert, insertValid, hw.insertSource, hw.returning]

/-! ### Updates and deletes -/

lemma changeEnd (r : ChangedRows) (c : Option Condition) :
    (w.changeEnd s r c).Follows s.manner := by
  simp [Writers.changeEnd, hw.whereClause, hw.orderBy]

lemma assignment (a : Assignment) : (w.assignment s a).Follows s.manner := by
  have hcolumns : (w.columnAssignments s a).Follows s.manner := by
    simp [columnAssignments, Draft.follows_commas_map, hw.expr]
  have hsource (source : RowSource) : (w.rowSource s source).Follows s.manner := by
    cases source <;> simp [rowSource, hw.row, hw.subquery]
  rw [Writers.assignment.eq_def]
  split <;> simp [hcolumns, hsource]

lemma updateWhere (u : Update) (r : ChangedRows) (c : Option Condition) :
    (w.updateWhere s u r c).Follows s.manner := by
  have htable : (w.table s.absorbing u.table).Follows s.manner := hw.table s.absorbing u.table
  have hassignments := Draft.follows_commas_map (w.assignment s)
    fun a (_ : a ∈ u.assignments) => hw.assignment s a
  simp [Writers.updateWhere, htable, hassignments, hw.output, hw.tables, hw.changeEnd,
    hw.returning]

/-- The draft of an update. -/
lemma update (u : Update) : (w.update s u).Follows s.manner := by
  simp only [Writers.update, WholeTablePolicy.check, Draft.follows_ite, Draft.follows_fail,
    Draft.follows_bind, Scope.follows_refuse, hw.updateWhere, implies_true, and_self]

lemma deleteTables (d : Delete) (using_ : List Table) (byReference : Bool) :
    (w.deleteTables s d using_ byReference).Follows s.manner := by
  have htable : (w.table s.absorbing d.table).Follows s.manner := hw.table s.absorbing d.table
  have hreference : (w.table { s with declareTables := false } d.table).Follows s.manner :=
    hw.table { s with declareTables := false } d.table
  simp [Writers.deleteTables, htable, hreference, hw.output, hw.tables]

lemma deleteWhere (d : Delete) (r : ChangedRows) (c : Option Condition) :
    (w.deleteWhere s d r c).Follows s.manner := by
  simp [Writers.deleteWhere, hw.deleteTables, hw.changeEnd, hw.returning]

/-- The draft of a delete. -/
lemma delete (d : Delete) : (w.delete s d).Follows s.manner := by
  simp only [Writers.delete, WholeTablePolicy.check, Draft.follows_ite, Draft.follows_fail,
    Draft.follows_bind, hw.deleteWhere, implies_true, and_self]

/-! ### Blocks -/

variable {s} in
lemma member (hs : s.inline = true) (stmt : Statement) :
    (w.member s stmt).Follows .procedural := by
  have hdynamic : (w.dynamic s stmt).Follows .procedural := by
    have hembed : (Draft.embed .quoted (w.statement s.inText stmt)).Follows .procedural :=
      Draft.follows_embed (by decide) .quoted ((hw.statement s.inText stmt).procedural rfl)
    simp [dynamic, hembed]
  simp [Writers.member, hdynamic, (hw.statement s stmt).procedural hs]

variable {s} in
lemma members (hs : s.inline = true) (b : Block) : (w.members s b).Follows .procedural := by
  have hinside : s.insideBlock.inline = true := hs
  refine Draft.follows_concat_map _ fun stmt _ => ?_
  simp [hw.member hinside, Piece.Follows]

/-- The draft of a block, which binds nothing. -/
lemma block (b : Block) : (w.block s b).Follows .procedural := by
  have hmembers (s : Scope) (hs : s.inline = true) : (w.members s b).Follows .procedural :=
    hw.members hs b
  have hprocedure (s : Scope) (hs : s.inline = true) :
      (w.procedure s b).Follows .procedural := by
    simp [procedure, hmembers s hs]
  have houter (s : Scope) (hs : s.inline = true) : (w.outerBlock s b).Follows .procedural := by
    have hembed : (Draft.embed .dollars (" BEGIN " ++ w.members s.inText b ++ "END ")).Follows
        .procedural :=
      Draft.follows_embed (n := .procedural) (by decide) .dollars
        (by simp [hmembers s.inText rfl])
    rw [outerBlock]
    split <;> simp [hembed, hmembers s hs, hprocedure s hs]
  have hs : s.writtenOut.inline = true := rfl
  simp [Writers.block, hmembers _ hs, houter _ hs]

/-! ### Statements -/

/-- The draft of a statement. -/
lemma draftStatement (stmt : Statement) : (w.draftStatement s stmt).FollowsAsStatement s := by
  have hwritten {d : Draft} (h : d.Follows .written) : d.FollowsAsStatement s :=
    .inl (h.of_written _)
  cases stmt with
  | select q => exact (hw.select s q).asStatement
  | insert i => exact (hw.insert s i).asStatement
  | update u => exact (hw.update s u).asStatement
  | delete d => exact (hw.delete s d).asStatement
  | createIndex c => exact hwritten (hw.createIndex s c)
  | dropIndex d => exact hwritten (follows_dropIndex s d)
  | truncate t => exact hwritten (follows_truncate s t)
  | createSequence c => exact hwritten (follows_createSequence s c)
  | dropSequence d => exact hwritten (follows_dropSequence s d)
  | createTable c => exact hwritten (hw.createTable s c)
  | dropTable d => exact hwritten (follows_dropTable s d)
  | block b => exact .inl (hw.block s b)

end Writers.Settled

/-- **The manner of all parts.** The writers of every level draft every part in the manner of its
place. -/
theorem Writers.level_settled : ∀ n : Nat, (Writers.level n).Settled
  | 0 =>
    { expr := fun _ _ => Draft.follows_fail _
      call := fun _ _ => Draft.follows_fail _
      condition := fun _ _ => Draft.follows_fail _
      select := fun _ _ => Draft.follows_fail _
      table := fun _ _ => Draft.follows_fail _
      statement := fun _ _ => .inl (Draft.follows_fail _) }
  | n + 1 =>
    have hw := level_settled n
    { expr := hw.draftExpr
      call := hw.draftCall
      condition := hw.draftCondition
      select := hw.draftSelect
      table := hw.draftTable
      statement := hw.draftStatement }

end Polysql

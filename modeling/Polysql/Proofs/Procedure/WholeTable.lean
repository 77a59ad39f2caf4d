import Polysql.Proofs.Place.Level
import Polysql.Proofs.Procedure.Guard
import Polysql.Proofs.Reading.Token
/-!
Changes of whole tables that are refused. A delete without a condition, or an update without one
that assigns something, fails before anything of it is written, and a block with such a statement at
any depth fails as well (`Statement.ChangesWholeTable`). An update that assigns nothing is written as
if it were not there, and so it is not refused (`Renderer.write_withoutIdle`).
-/

namespace Polysql

namespace Statement

/-! ### Statements that change a whole table -/

/-- The statement changes all rows of a table, or a statement inside of it does. -/
inductive ChangesWholeTable : Statement → Prop
  | delete {d : Delete} (h : d.filter? = none) : ChangesWholeTable (.delete d)
  | update {u : Update} (hassigns : u.assignments ≠ []) (h : u.filter? = none) :
      ChangesWholeTable (.update u)
  | block {b : Block} {stmt : Statement} (hmem : stmt ∈ b.statements)
      (h : ChangesWholeTable stmt) : ChangesWholeTable (.block b)

lemma anyExecutable_iff {ss : List Statement} :
    anyExecutable ss = true ↔ ∃ stmt ∈ ss, stmt.isExecutable = true := by
  induction ss with
  | nil => simp [anyExecutable]
  | cons stmt ss ih => simp [anyExecutable, ih]

/-- Such a statement does something, so it is not left out. -/
lemma ChangesWholeTable.isExecutable {stmt : Statement} (h : stmt.ChangesWholeTable) :
    stmt.isExecutable = true := by
  induction h with
  | delete _ => rfl
  | update hassigns _ => simpa [Statement.isExecutable] using hassigns
  | @block b _ hmem _ ih =>
    cases b
    exact anyExecutable_iff.mpr ⟨_, hmem, ih⟩

lemma ChangesWholeTable.isDefinition {stmt : Statement} (h : stmt.ChangesWholeTable) :
    stmt.isDefinition = false := by
  cases h <;> rfl

/-! ### Updates that assign nothing -/

/-- An update that assigns nothing. -/
def isIdle : Statement → Bool
  | .update u => u.assignments.isEmpty
  | _ => false

mutual

/-- The statement without the updates in its blocks that assign nothing. -/
def withoutIdle : Statement → Statement
  | .block ⟨name, ss⟩ => .block ⟨name, withoutIdleAll ss⟩
  | stmt => stmt

/-- The statements without the updates that assign nothing. -/
def withoutIdleAll : List Statement → List Statement
  | [] => []
  | stmt :: ss =>
    if stmt.isIdle then withoutIdleAll ss else stmt.withoutIdle :: withoutIdleAll ss

end

lemma isExecutable_of_isIdle {stmt : Statement} (h : stmt.isIdle = true) :
    stmt.isExecutable = false := by
  cases stmt with
  | update u => simpa [isExecutable, isIdle] using h
  | _ => cases h

mutual

lemma isExecutable_withoutIdle : ∀ stmt : Statement,
    stmt.withoutIdle.isExecutable = stmt.isExecutable
  | .block ⟨name, ss⟩ => by
    rw [withoutIdle, isExecutable, isExecutable, anyExecutable_withoutIdleAll ss]
  | .select _ | .insert _ | .update _ | .delete _ | .createIndex _ | .dropIndex _ | .truncate _
  | .createSequence _ | .dropSequence _ | .createTable _ | .dropTable _ => rfl

lemma anyExecutable_withoutIdleAll : ∀ ss : List Statement,
    anyExecutable (withoutIdleAll ss) = anyExecutable ss
  | [] => rfl
  | stmt :: ss => by
    rw [withoutIdleAll]
    split
    next hidle =>
      rw [anyExecutable_withoutIdleAll ss, anyExecutable, isExecutable_of_isIdle hidle,
        Bool.false_or]
    next =>
      rw [anyExecutable, anyExecutable, isExecutable_withoutIdle stmt,
        anyExecutable_withoutIdleAll ss]

end

mutual

lemma rank_withoutIdle_le : ∀ stmt : Statement, stmt.withoutIdle.rank ≤ stmt.rank
  | .block ⟨name, ss⟩ => by
    rw [withoutIdle, rank, rank]
    exact Nat.add_le_add_left (rankOfStatements_withoutIdleAll_le ss) 1
  | .select _ | .insert _ | .update _ | .delete _ | .createIndex _ | .dropIndex _ | .truncate _
  | .createSequence _ | .dropSequence _ | .createTable _ | .dropTable _ => Nat.le_refl _

lemma rankOfStatements_withoutIdleAll_le : ∀ ss : List Statement,
    rankOfStatements (withoutIdleAll ss) ≤ rankOfStatements ss
  | [] => Nat.le_refl _
  | stmt :: ss => by
    have hss := rankOfStatements_withoutIdleAll_le ss
    have hstmt := rank_withoutIdle_le stmt
    rw [withoutIdleAll]
    split
    next => exact Nat.le_trans hss (Nat.le_max_right _ _)
    next =>
      rw [rankOfStatements, rankOfStatements]
      omega

end

/-- The statements that do something are the same ones. -/
lemma filter_withoutIdleAll (ss : List Statement) :
    (withoutIdleAll ss).filter isExecutable = (ss.filter isExecutable).map withoutIdle := by
  induction ss with
  | nil => rfl
  | cons stmt ss ih =>
    rw [withoutIdleAll]
    split
    next hidle =>
      rw [ih, List.filter_cons_of_neg (by rw [isExecutable_of_isIdle hidle]; exact nofun)]
    next =>
      rw [List.filter_cons, isExecutable_withoutIdle, ih, List.filter_cons]
      split <;> rfl

lemma isDefinition_withoutIdle (stmt : Statement) :
    stmt.withoutIdle.isDefinition = stmt.isDefinition := by
  cases stmt with
  | block b => cases b; rfl
  | _ => rfl

lemma isGuarded_withoutIdle (d : Dialect) (stmt : Statement) :
    stmt.withoutIdle.isGuarded d = stmt.isGuarded d := by
  cases stmt with
  | block b => cases b; rfl
  | _ => rfl

end Statement

/-! ### Drafts -/

namespace Writers

variable {w : Writers} {s : Scope} {b : Block}

/-- A block is drafted only if its statements are. -/
lemma error?_members_of_block (h : (w.block s b).error? = none) :
    ∃ s' : Scope, s'.target = s.target ∧ (w.members s' b).error? = none := by
  have hbetween {before body after : Draft} (h : (before ++ body ++ after).error? = none) :
      body.error? = none :=
    (Draft.error?_append.mp (Draft.error?_append.mp h).1).2
  rw [Writers.block] at h
  split at h
  next => exact ⟨s.writtenOut, rfl, hbetween h⟩
  next =>
    rw [outerBlock] at h
    -- between dollar tags, between plain words, as a procedure, or not at all
    split at h
    case h_1 | h_2 => exact ⟨s.writtenOut.inText, rfl, hbetween h⟩
    case h_3 | h_4 | h_5 | h_6 | h_7 => exact ⟨s.writtenOut, rfl, hbetween h⟩
    case h_8 =>
      rw [procedure] at h
      simp only [Draft.error?_append] at h
      obtain ⟨⟨⟨⟨⟨⟨-, hmembers⟩, -⟩, -⟩, -⟩, -⟩, -⟩ := h
      exact ⟨s.writtenOut, rfl, hmembers⟩
    case h_9 => cases h

/-- The statements of a block are drafted only if each of them is that does something. -/
lemma error?_statement_of_members {stmt : Statement} (hmem : stmt ∈ b.statements)
    (hexecutable : stmt.isExecutable = true) (hdefinition : stmt.isDefinition = false)
    (h : (w.members s b).error? = none) :
    ∃ s' : Scope, s'.target = s.target ∧ (w.statement s' stmt).error? = none := by
  have hfilter : stmt ∈ b.statements.filter Statement.isExecutable :=
    List.mem_filter.mpr ⟨hmem, hexecutable⟩
  rw [members] at h
  have hended := Draft.error?_concat.mp h _ (List.mem_map_of_mem hfilter)
  have hmember := (Draft.error?_append.mp hended).1
  rw [member, hdefinition] at hmember
  exact ⟨s.insideBlock, rfl, hmember⟩

/-- What changes a whole table is not drafted where that is refused. -/
lemma error?_of_changesWholeTable {stmt : Statement} (h : stmt.ChangesWholeTable) (n : Nat)
    {s : Scope} (hdelete : s.target.wholeDelete = .refuse)
    (hupdate : s.target.wholeUpdate = .refuse) :
    ((level n).statement s stmt).error? ≠ none := by
  -- on the changes and the blocks around them; no level drafts more than the policy allows
  induction h generalizing n s with
  | @delete d h =>
    cases n with
    | zero => exact Option.some_ne_none _
    | succ n =>
      change ((level n).delete s d).error? ≠ none
      rw [Writers.delete, WholeTablePolicy.check, if_pos ⟨hdelete, by rw [h]; rfl⟩]
      exact Option.some_ne_none _
  | @update u _ h =>
    cases n with
    | zero => exact Option.some_ne_none _
    | succ n =>
      change ((level n).update s u).error? ≠ none
      rw [Writers.update, WholeTablePolicy.check, if_pos ⟨hupdate, by rw [h]; rfl⟩]
      exact Option.some_ne_none _
  | @block b stmt hmem h ih =>
    cases n with
    | zero => exact Option.some_ne_none _
    | succ n =>
      intro hblock
      change ((level n).block s b).error? = none at hblock
      obtain ⟨s', hs', hmembers⟩ := error?_members_of_block hblock
      obtain ⟨s'', hs'', hstmt⟩ :=
        error?_statement_of_members hmem h.isExecutable h.isDefinition hmembers
      refine ih n ?_ ?_ hstmt
      · rw [hs'', hs', hdelete]
      · rw [hs'', hs', hupdate]

/-- Updates that assign nothing are not drafted. -/
lemma statement_withoutIdle (n : Nat) (s : Scope) (stmt : Statement) :
    (level n).statement s stmt.withoutIdle = (level n).statement s stmt := by
  induction n generalizing s stmt with
  | zero => rfl
  | succ n ih =>
    -- only a block holds statements; its members stand one level below
    cases stmt with
    | block b =>
      obtain ⟨name, ss⟩ := b
      have hmember (s : Scope) (stmt : Statement) :
          (level n).member s stmt.withoutIdle = (level n).member s stmt := by
        rw [member, member, dynamic, dynamic, Statement.isDefinition_withoutIdle,
          Statement.isGuarded_withoutIdle, ih, ih]
      have hmembers (s : Scope) : (level n).members s ⟨name, Statement.withoutIdleAll ss⟩ =
          (level n).members s ⟨name, ss⟩ := by
        rw [members, members, Statement.filter_withoutIdleAll, List.map_map]
        simp only [Function.comp_def, hmember]
      change (level n).block s ⟨name, Statement.withoutIdleAll ss⟩ = (level n).block s ⟨name, ss⟩
      simp only [Writers.block, outerBlock, procedure, hmembers]
    | _ => rfl

end Writers

/-! ### Statements -/

namespace Renderer

variable (r : Renderer) (bound : List Parameter)

/-- Updates that assign nothing are written as if they were not there. -/
lemma write_withoutIdle (stmt : Statement) :
    r.write bound stmt.withoutIdle = r.write bound stmt := by
  have hdraft : Draft.ofStatement r.target stmt.withoutIdle = Draft.ofStatement r.target stmt := by
    rw [Draft.ofStatement, Draft.ofStatement, ← Writers.statement_withoutIdle stmt.rank]
    exact Writers.level_statement (Nat.le_refl _) stmt.rank_withoutIdle_le _
  rw [write, write, Statement.isExecutable_withoutIdle, hdraft]

lemma error?_write_of_draft {stmt : Statement} (hexecutable : stmt.isExecutable = true)
    (h : (Draft.ofStatement r.target stmt).error? ≠ none) :
    (r.write bound stmt).error? ≠ none := by
  rw [write, if_pos hexecutable]
  intro hnone
  exact h (Option.or_eq_none_iff.mp hnone).2

/-- A statement whose draft is an error only. -/
lemma write_of_fail {stmt : Statement} {e : Error} (hexecutable : stmt.isExecutable = true)
    (h : Draft.ofStatement r.target stmt = .fail e) :
    r.write bound stmt = ⟨"", bound, some e⟩ := by
  rw [write, if_pos hexecutable, h]
  rfl

end Renderer

/-- **Changes of whole tables are refused.** Where neither a delete nor an update of a whole table
is allowed, every statement with such a change at any depth fails. The change itself fails with the
error of the policy before anything is written or bound. An update that assigns nothing has no text,
and it makes no difference to the blocks that it is in. -/
theorem Renderer.write_changesWholeTable (r : Renderer) (bound : List Parameter)
    (hdelete : r.settings.wholeDelete = .refuse) (hupdate : r.settings.wholeUpdate = .refuse) :
    (∀ stmt : Statement, stmt.ChangesWholeTable → (r.write bound stmt).error? ≠ none) ∧
    (∀ d : Delete, d.filter? = none → r.write bound (.delete d) =
      ⟨"", bound, some (.ofCause (.policy "DELETE without a WHERE clause"))⟩) ∧
    (∀ u : Update, u.assignments ≠ [] → u.filter? = none → r.write bound (.update u) =
      ⟨"", bound, some (.ofCause (.policy "UPDATE without a WHERE clause"))⟩) ∧
    (∀ u : Update, u.assignments = [] → r.write bound (.update u) = .start bound) ∧
    ∀ stmt : Statement, r.write bound stmt.withoutIdle = r.write bound stmt := by
  refine ⟨fun stmt h => ?_, fun d h => ?_, fun u hassigns h => ?_, fun u h => ?_,
    r.write_withoutIdle bound⟩
  · exact r.error?_write_of_draft bound h.isExecutable
      (Writers.error?_of_changesWholeTable h stmt.rank hdelete hupdate)
  · refine r.write_of_fail bound rfl ?_
    rw [Draft.ofStatement_eq r.target (Nat.add_comm 1 _)]
    change Writers.delete _ _ d = _
    rw [Writers.delete, WholeTablePolicy.check, if_pos ⟨hdelete, by rw [h]; rfl⟩]
    rfl
  · refine r.write_of_fail bound (by simpa [Statement.isExecutable] using hassigns) ?_
    rw [Draft.ofStatement_eq r.target (Nat.add_comm 1 _)]
    change Writers.update _ _ u = _
    rw [Writers.update, WholeTablePolicy.check, if_pos ⟨hupdate, by rw [h]; rfl⟩]
    rfl
  · rw [write, if_neg (by simp [Statement.isExecutable, h])]

/-- A delete by means of another table, alone and in a block in a block, next to an update that
assigns nothing. -/
theorem Renderer.write_changesWholeTable_block :
    let r : Renderer :=
      { dialect := .postgres, settings := { wholeDelete := .refuse, wholeUpdate := .refuse } }
    let t : Table := .named ⟨.ofTexts ["t"], none, []⟩
    let u : Table := .named ⟨.ofTexts ["u"], none, []⟩
    let delete : Delete := { Delete.of t with tables := [u], limit? := some 3 }
    let query : Statement := .select { fields := [⟨.number 1, none⟩] }
    r.settings.wholeDelete = .refuse ∧ r.settings.wholeUpdate = .refuse ∧
      (r.write [] (.block ⟨"p", [query, .block ⟨"q", [.delete delete]⟩]⟩)).error? ≠ none ∧
      r.write [⟨.null, .unknown, none⟩] (.delete delete) = ⟨"", [⟨.null, .unknown, none⟩],
        some (.ofCause (.policy "DELETE without a WHERE clause"))⟩ ∧
      r.write [] (.update (Update.of t)) = .start [] ∧
      (r.write [] (.block ⟨"p", [.update (Update.of t), query]⟩)).text =
        "DO $$ BEGIN SELECT 1; END $$" := by
  intro r t u delete query
  obtain ⟨hfails, -, -, hidle, hwithoutIdle⟩ :=
    Renderer.write_changesWholeTable r [] rfl rfl
  obtain ⟨-, hrefused, -⟩ :=
    Renderer.write_changesWholeTable r [⟨.null, .unknown, none⟩] rfl rfl
  refine ⟨rfl, rfl, hfails _ ?_, hrefused delete rfl, hidle (Update.of t) rfl, ?_⟩
  · exact .block (List.mem_cons_of_mem _ List.mem_cons_self)
      (.block List.mem_cons_self (.delete rfl))
  · rw [← hwithoutIdle]
    decide +kernel

end Polysql

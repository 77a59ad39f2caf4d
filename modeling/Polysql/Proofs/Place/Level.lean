import Polysql.Proofs.Place.Statement
/-!
Statements at other levels of writers. The rank of a statement is enough: its draft is the same at
every level that is not below (`Writers.level_statement`).
-/

namespace Polysql

/-- The move to the same place. -/
def Move.stay : Move :=
  ⟨false, none⟩

@[simp] lemma Move.stay_scope (s : Scope) : Move.stay.scope s = s := by
  cases s
  simp [stay, scope]

namespace Writers.Moves

variable {w w' : Writers} {n : Nat} (hw : Moves .stay w w' n) (s : Scope)
include hw

lemma expr_eq {e : Expr} (h : e.rank ≤ n) : w.expr s e = w'.expr s e :=
  (hw.expr s h).trans (by rw [Move.stay_scope])

lemma condition_eq {c : Condition} (h : c.rank ≤ n) : w.condition s c = w'.condition s c :=
  (hw.condition s h).trans (by rw [Move.stay_scope])

/-- A table is created alike, also if its check is a block. -/
lemma createTable_eq {c : CreateTable} (h : rankOfDefaults c.columns ≤ n) :
    w.createTable s c = w'.createTable s c := by
  have hcolumns (s : Scope) :
      c.columns.map (w.columnDefinition s) = c.columns.map (w'.columnDefinition s) := by
    refine List.map_congr_left fun d hd => ?_
    have hrank := Nat.le_trans (rank_le_rankOfDefaults hd) h
    have hdefault : Draft.ofOption (fun e => " DEFAULT " ++ w.expr s e) d.default? =
        .ofOption (fun e => " DEFAULT " ++ w'.expr s e) d.default? := by
      cases hd? : d.default? with
      | none => rfl
      | some e =>
        rw [hd?, rankOfOption_some] at hrank
        rw [Draft.ofOption, Draft.ofOption, hw.expr_eq s hrank]
    rw [columnDefinition, columnDefinition, hdefault]
  simp only [Writers.createTable, hcolumns]

/-- An index is created alike, also if its check is a block. -/
lemma createIndex_eq {c : CreateIndex} (h : rankOfFilter c.filter? ≤ n) :
    w.createIndex s c = w'.createIndex s c := by
  have hfilter (s : Scope) : Draft.ofOption (fun f => " WHERE " ++ w.condition s f) c.filter? =
      .ofOption (fun f => " WHERE " ++ w'.condition s f) c.filter? := by
    cases hc : c.filter? with
    | none => rfl
    | some f =>
      rw [hc, rankOfFilter_some] at h
      rw [Draft.ofOption, Draft.ofOption, hw.condition_eq s h]
  simp only [Writers.createIndex, createIndexOn, hfilter]

end Writers.Moves

namespace Writers

/-- A block is drafted alike by writers that draft its statements alike. -/
lemma block_congr {w w' : Writers} {b : Block}
    (h : ∀ stmt ∈ b.statements, ∀ s, w.statement s stmt = w'.statement s stmt) (s : Scope) :
    w.block s b = w'.block s b := by
  have hmembers (s : Scope) : w.members s b = w'.members s b := by
    refine congrArg Draft.concat (List.map_congr_left fun stmt hmem => ?_)
    have hsame := h stmt (List.mem_filter.mp hmem |>.1)
    rw [member, member, dynamic, dynamic, hsame, hsame]
  simp only [Writers.block, outerBlock, procedure, hmembers]

/-- A statement is drafted alike by writers that draft its parts alike, also the statements of a
block. -/
lemma Moves.draftStatement_eq {w w' : Writers} {n : Nat} (hw : Moves .stay w w' n)
    {stmt : Statement} (h : stmt.rank ≤ n + 1)
    (hstmt : ∀ stmt', stmt'.rank ≤ n → ∀ s, w.statement s stmt' = w'.statement s stmt')
    (s : Scope) : w.draftStatement s stmt = w'.draftStatement s stmt := by
  cases stmt with
  | createTable c =>
    change 1 + rankOfDefaults c.columns ≤ n + 1 at h
    exact hw.createTable_eq s (by omega)
  | createIndex c =>
    change 1 + rankOfFilter c.filter? ≤ n + 1 at h
    exact hw.createIndex_eq s (by omega)
  | dropIndex | truncate | createSequence | dropSequence | dropTable => rfl
  | block b =>
    refine block_congr (fun stmt hmem s => hstmt stmt ?_ s) s
    have hle := rank_le_rankOfStatements hmem
    cases b
    rw [Statement.rank] at h
    dsimp only at hle
    omega
  | select | insert | update | delete =>
    have hsame := hw.draftStatement s h (fun _ => nofun) rfl
    rwa [Move.stay_scope] at hsame

/-- **The rank is enough.** The draft of a statement is the same at every level from its rank on. -/
theorem level_statement {n k : Nat} {stmt : Statement} (hn : stmt.rank ≤ n) (hk : stmt.rank ≤ k)
    (s : Scope) : (level n).statement s stmt = (level k).statement s stmt := by
  induction n generalizing k stmt s with
  | zero =>
    obtain ⟨l, hl⟩ := stmt.exists_rank_eq
    omega
  | succ n ih =>
    obtain ⟨l, hl⟩ := stmt.exists_rank_eq
    obtain ⟨k, rfl⟩ : ∃ j, k = j + 1 := ⟨k - 1, by omega⟩
    have hw : Moves .stay (level n) (level k) l := moves_of_le .stay (by omega) (by omega)
    exact hw.draftStatement_eq (Nat.le_of_eq hl)
      (fun stmt' h s => ih (by omega) (by omega) s) s

end Writers

end Polysql

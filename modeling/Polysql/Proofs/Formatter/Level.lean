import Polysql.Proofs.Formatter.Call
import Polysql.Proofs.Formatter.Condition
import Polysql.Proofs.Formatter.Expr
import Polysql.Proofs.Formatter.Statement
import Polysql.Proofs.Place.Descent
import Polysql.Proofs.Reading.Rank
/-!
Rendering restores the formatter. The formatters of a level render a part by means of those of the
level below, as the writers of the level draft it (`Formatters.level_follows`). So whatever is
rendered, and whether it is written or fails, the formatter is left as it was found; what has been
written is the draft of the place, and an error is that of the draft
(`Formatter.restored_of_render`). A statement on a fresh formatter is what the renderer writes
(`Renderer.format_eq_write`).
-/

namespace Polysql

open Writers (ofRank)

/-! ### Levels -/

namespace Formatters

/-- The formatters of a level. Nothing can be rendered at level zero. -/
def level : Nat → Formatters
  | 0 =>
    let none_ : Formatting Unit := .fail (.ofCause .tooDeep)
    ⟨fun _ => none_, fun _ => none_, fun _ => none_, fun _ => none_, fun _ => none_,
      fun _ => none_⟩
  | n + 1 =>
    let m := level n
    ⟨m.formatExpr, m.formatCall, m.formatCondition, m.formatSelect, m.formatTable,
      m.formatStatement⟩

/-- **The formatters of a level render what its writers draft.** -/
theorem level_follows : ∀ n : Nat, (level n).Follows (Writers.level n)
  | 0 =>
    have hnone (s : Scope) := Formatting.renders_fail (s := s) (.ofCause .tooDeep)
    { settled := Writers.level_settled 0
      expr := fun s _ => hnone s
      call := fun s _ => hnone s
      condition := fun s _ => hnone s
      select := fun s _ => hnone s
      table := fun s _ => (hnone s).yields_of_failed rfl _
      statement := fun s _ => (hnone s).writes }
  | n + 1 =>
    have h := level_follows n
    { settled := Writers.level_settled (n + 1)
      expr := h.formatExpr
      call := h.formatCall
      condition := h.formatCondition
      select := h.formatSelect
      table := h.formatTable
      statement := h.formatStatement }

end Formatters

/-! ### Nodes -/

/-- What is rendered: a part, a row of values, or a name. -/
inductive Node where
  /-- A part of a statement. -/
  | part (p : Part)
  /-- A row of values. -/
  | row (r : Row)
  /-- A name with all its parts. -/
  | name (n : Name)
  /-- The last part of a name. -/
  | lastPart (n : Name)
  /-- The name of a column. -/
  | column (n : Name)

namespace Node

/-- The rank of what is rendered. -/
def rank : Node → Nat
  | part p => p.rank
  | row r => rankOfExprs r
  | name _ | lastPart _ | column _ => 0

/-- The draft of what is rendered, for a place. -/
def draft (s : Scope) : Node → Draft
  | part p => ofRank.write s p
  | row r => ofRank.row s r
  | name n => .qualified n
  | lastPart n => .unqualified n
  | column n => .column s n

end Node

/-- Renders a part, a row or a name. -/
def Formatters.render (m : Formatters) : Node → Formatting Unit
  | .part (.expr e) => m.expr e
  | .part (.call c) => m.call c
  | .part (.condition c) => m.condition c
  | .part (.select q) => m.select q
  | .part (.table t) => m.table t
  | .part (.statement stmt) => m.statement stmt
  | .row r => m.row r
  | .name n => .qualified n
  | .lastPart n => .lastPart n
  | .column n => .column n

lemma Writers.row_level {r : Row} {n : Nat} (h : rankOfExprs r ≤ n) (s : Scope) :
    (level n).row s r = ofRank.row s r := by
  have hexprs : r.map ((level n).expr s) = r.map (ofRank.expr s) :=
    List.map_congr_left fun e he => by
      have hrank : (Part.expr e).rank ≤ n := (rank_le_rankOfExprs he).trans h
      have hlevel := write_iterate (level 0) hrank s
      rwa [← level_eq_iterate] at hlevel
  rw [row, row, exprs, exprs, hexprs]

/-- What is rendered writes its draft. -/
lemma Formatters.render_writes (node : Node) (k : Nat) (s : Scope) :
    ((level (node.rank + k)).render node).Writes s (node.draft s) := by
  have h := level_follows (node.rank + k)
  cases node with
  | part p =>
    -- on any level from the rank on, the writers draft what they draft on the level of the rank
    have hlevel := Writers.write_iterate (Writers.level 0) (Nat.le_add_right p.rank k) s
    rw [← Writers.level_eq_iterate] at hlevel
    rw [Node.draft, ← hlevel]
    cases p with
    | expr e => exact (h.expr s e).writes
    | call c => exact (h.call s c).writes
    | condition c => exact (h.condition s c).writes
    | select q => exact (h.select s q).writes
    | table t => exact ⟨_, h.table s t⟩
    | statement stmt => exact h.statement s stmt
  | row r =>
    rw [Node.draft, ← Writers.row_level (Nat.le_add_right (rankOfExprs r) k)]
    exact (h.row s r).writes
  | name n => exact (Formatting.renders_qualified n).writes
  | lastPart n => exact (Formatting.renders_lastPart n).writes
  | column n => exact (Formatting.renders_column n).writes

/-- **Rendering restores the formatter.** Whatever is rendered, on whatever formatter, with success
or with an error: the place is as it was, and the text, the bound values and the conditions that
take over joins have only become more. What has been written is the draft for the place of the
formatter; if that fails, the error is the one of the draft, and what it bound stays bound. -/
theorem Formatter.restored_of_render (node : Node) (k : Nat) (f : Formatter) :
    let w := f.renderer.style.write f.written (node.draft f.scope)
    match (Formatters.level (node.rank + k)).render node f with
    | .ok _ g => f.Restored g ∧ w.error? = none ∧ g.written = w
    | .error e g => f.Restored g ∧ w.error? = some e ∧ g.parameters = w.parameters := by
  intro w
  obtain ⟨cs, h⟩ := Formatters.render_writes node k f.scope
  have houtcome := h f rfl
  have hadded : f.written.Extends w := f.renderer.style.extends_write f.written _
  change f.Outcome w cs () _ at houtcome
  generalize (Formatters.level (node.rank + k)).render node f = r at houtcome
  cases houtcome with
  | ok hw => exact ⟨f.restored_after hadded cs, hw, f.written_after hw cs⟩
  | error hw hparameters hrestored => exact ⟨hrestored, hw, hparameters⟩

/-! ### Statements -/

/-- Renders a statement on a formatter of its own. -/
def Renderer.format (r : Renderer) (bound : List Parameter) (stmt : Statement) :
    EStateM.Result Error Formatter Unit :=
  if stmt.isExecutable then (Formatters.level stmt.rank).statement stmt (.start r bound)
  else .ok () (.start r bound)

/-- A statement on a formatter of its own is what the renderer writes. -/
theorem Renderer.format_eq_write (r : Renderer) (bound : List Parameter) (stmt : Statement) :
    match r.format bound stmt with
    | .ok _ g => r.write bound stmt = g.written
    | .error e g =>
      (r.write bound stmt).error? = some e ∧ (r.write bound stmt).parameters = g.parameters := by
  rw [format, write]
  cases stmt.isExecutable with
  | false => rfl
  | true =>
    obtain ⟨cs, hwrites⟩ :=
      Formatters.render_writes (.part (.statement stmt)) 0 (Formatter.start r bound).scope
    have houtcome := hwrites (.start r bound) rfl
    change (Formatter.start r bound).Outcome
      (r.style.write (.start bound) (.ofStatement r.target stmt)) cs ()
      ((Formatters.level stmt.rank).statement stmt (.start r bound)) at houtcome
    rw [if_pos rfl, if_pos rfl]
    generalize (Formatters.level stmt.rank).statement stmt (.start r bound) = result at houtcome
    cases houtcome with
    | ok hw => exact ((Formatter.start r bound).written_after hw cs).symm
    | error hw hparameters _ => exact ⟨hw, hparameters.symm⟩

end Polysql

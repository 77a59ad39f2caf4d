import Polysql.Draft.Block
import Polysql.Draft.Call
import Polysql.Statement.Rank
/-!
The draft of a statement. The writers of a level draft a part by means of the writers of the level
below for what the part contains, and for the detours that replace it. The level that a statement
starts at is its rank, which goes down by at least one on every such step.
-/

namespace Polysql

/-- The writers of a level. Nothing can be drafted at level zero. -/
def Writers.level : Nat → Writers
  | 0 =>
    let none_ : Draft := .fail (.ofCause .tooDeep)
    ⟨fun _ _ => none_, fun _ _ => none_, fun _ _ => none_, fun _ _ => none_, fun _ _ => none_,
      fun _ _ => none_⟩
  | n + 1 =>
    let w := level n
    ⟨w.draftExpr, w.draftCall, w.draftCondition, w.draftSelect, w.draftTable, w.draftStatement⟩

/-- The draft of a statement. -/
def Draft.ofStatement (target : Target) (stmt : Statement) : Draft :=
  (Writers.level stmt.rank).statement { target } stmt

end Polysql

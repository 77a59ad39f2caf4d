import Polysql.Proofs.Procedure.Guard
import Polysql.Proofs.Rank.Statement
/-!
Definitions and blocks bind nothing. Every value in them is written out, however deep it stands and
whatever stands in its place in the end: their drafts hold no value to bind
(`Draft.ofStatement_procedural`). So the values that are bound already stay as they
are, also when the statement fails (`Renderer.parameters_write`).
-/

namespace Polysql

/-- A statement that defines something, or runs several statements. -/
def Statement.IsDefinitionOrBlock (stmt : Statement) : Prop :=
  stmt.isDefinition = true ∨ ∃ b, stmt = .block b

/-- No value is bound in the draft of a definition or a block. -/
lemma Draft.ofStatement_procedural (target : Target) {stmt : Statement}
    (h : stmt.IsDefinitionOrBlock) : (ofStatement target stmt).Follows .procedural := by
  obtain hdefinition | ⟨b, rfl⟩ := h
  · exact (ofStatement_written target hdefinition).of_written _
  · obtain ⟨k, hk⟩ := (Statement.block b).exists_rank_eq
    rw [ofStatement_eq target hk]
    exact (Writers.level_settled k).block _ b

/-- A definition or a block is written alike whatever is bound already. -/
lemma Renderer.write_definitionOrBlock (r : Renderer) {stmt : Statement}
    (h : stmt.IsDefinitionOrBlock) :
    ∃ (text : String) (error? : Option Error), ∀ bound,
      r.write bound stmt = ⟨text, bound, error?⟩ := by
  have hclosed := (Draft.ofStatement_procedural r.target h).allClosed (by decide)
  obtain ⟨text, htext⟩ := r.style.write_of_closed hclosed
  cases hexecutable : stmt.isExecutable with
  | false => exact ⟨"", none, fun bound => by rw [write, hexecutable]; rfl⟩
  | true => exact ⟨text, _, fun bound => by rw [write, if_pos hexecutable, htext]⟩

/-- **Definitions and blocks bind nothing.** The creation or removal of a table, an index or a
sequence, the truncation of a table and a block leave the values that are bound already as they are,
whether they are written or fail. -/
theorem Renderer.parameters_write (r : Renderer) (bound : List Parameter) (stmt : Statement)
    (h : stmt.isDefinition = true ∨ ∃ b, stmt = .block b) :
    (r.write bound stmt).parameters = bound := by
  obtain ⟨text, error?, hwrite⟩ := r.write_definitionOrBlock h
  rw [hwrite]

/-- A block in a block with a value that is bound elsewhere, and a column with a default. -/
theorem Renderer.parameters_write_block :
    let r : Renderer := { dialect := .postgres }
    let filter : Condition := .compare (.column (.ofTexts ["a"])) .eq (.bind (.ofNat 5))
    let delete : Statement :=
      .delete { Delete.of (.named ⟨.ofTexts ["t"], none, []⟩) with filter? := some filter }
    let create : Statement := .createTable
      ⟨.ofTexts ["u"], [⟨.ofTexts ["b"], .integer, false, some (.bind (.ofNat 7))⟩], [], true⟩
    let stmt : Statement := .block ⟨"p", [.block ⟨"q", [delete]⟩, create]⟩
    (∃ b, stmt = .block b) ∧
      (r.write [⟨.null, .unknown, none⟩] stmt).parameters = [⟨.null, .unknown, none⟩] ∧
      (r.write [⟨.null, .unknown, none⟩] delete).parameters.length = 2 := by
  intro r filter delete create stmt
  refine ⟨⟨_, rfl⟩, ?_, ?_⟩
  · exact Renderer.parameters_write r _ stmt (.inr ⟨_, rfl⟩)
  · decide +kernel

end Polysql

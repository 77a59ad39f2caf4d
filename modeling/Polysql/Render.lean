import Polysql.Draft.Statement
import Polysql.Writing
/-!
Rendering: a statement as SQL text for an engine, with the values that are bound to it. Several
statements can share their parameters; what a statement binds before it fails stays bound.
-/

namespace Polysql

/-- SQL text, and the values that are bound to it in the order of their placeholders. -/
structure Rendered where
  /-- The text. -/
  sql : String
  /-- The values. -/
  parameters : List Parameter

namespace Rendered

/-- There is nothing to run. -/
def isEmpty (r : Rendered) : Bool :=
  r.sql.isEmpty

end Rendered

/-- What renders statements. -/
structure Renderer where
  /-- The engine. -/
  dialect : Dialect
  /-- The settings. -/
  settings : Settings := {}
  /-- What is known of the database. -/
  catalog? : Option Catalog := none

namespace Renderer

/-- What statements are drafted for. -/
def target (r : Renderer) : Target :=
  { dialect := r.dialect
    catalog? := r.catalog?
    wholeDelete := r.settings.wholeDelete
    wholeUpdate := r.settings.wholeUpdate }

/-- How drafts are written. -/
def style (r : Renderer) : Style :=
  ⟨r.dialect, r.settings⟩

/-- Writes a statement when some values are bound already. A statement that does nothing has no
text. -/
def write (r : Renderer) (bound : List Parameter) (stmt : Statement) : Written :=
  if stmt.isExecutable then r.style.write (.start bound) (Draft.ofStatement r.target stmt)
  else .start bound

/-- Renders a statement. -/
def render (r : Renderer) (stmt : Statement) : Except Error Rendered :=
  let w := r.write [] stmt
  match w.error? with
  | some e => .error e
  | none => .ok ⟨w.text, w.parameters⟩

/-- Renders several statements that share their parameters. Each comes with its text or its error
and the number of values bound so far; the second component is the values bound in the end. -/
def session (r : Renderer) (stmts : List Statement) :
    List (Except Error String × Nat) × List Parameter :=
  stmts.foldl
    (fun (results, bound) stmt =>
      let w := r.write bound stmt
      let text := match w.error? with
        | some e => .error e
        | none => .ok w.text
      (results ++ [(text, w.parameters.length)], w.parameters))
    ([], [])

end Renderer

end Polysql

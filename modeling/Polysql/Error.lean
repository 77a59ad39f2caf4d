import Polysql.Dialect
import Polysql.Name
/-!
The causes for which a statement or an evaluation is refused, their wording, and the chain of
contexts that can be put in front of a cause.
-/

namespace Polysql

/-- Why something was refused. -/
inductive Cause where
  /-- The engine cannot write it, and there is no detour. -/
  | unsupported (dialect : Dialect) (feature : String)
  /-- No foreign key relates two tables. -/
  | keyNotFound (left right : Name)
  /-- Several foreign keys relate two tables: those from left to right, and those back. -/
  | ambiguousKey (left right : Name) (forward backward : List String)
  /-- The settings forbid to run it. -/
  | policy (message : String)
  /-- The statement does not fit together. -/
  | invalidStatement (message : String)
  /-- An expression has no value. -/
  | evaluation (message : String)
  /-- A plain message. -/
  | plain (text : String)
  /-- An error of another library, with its own text. -/
  | foreign (text : String)
  /-- Nothing is known. -/
  | unknown
  /-- A draft went deeper than the rank of its statement allows. -/
  | tooDeep
deriving DecidableEq

/-- The wording of a cause. -/
def Cause.text : Cause → String
  | .unsupported dialect feature =>
    "unsupported feature: " ++ feature ++ " is not supported by " ++ dialect.name
  | .keyNotFound left right => "no foreign key found between " ++ left.text ++ " and " ++ right.text
  | .ambiguousKey left right forward backward =>
    "ambiguous foreign keys between " ++ left.text ++ " and " ++ right.text ++ ": [" ++
      Text.joined ", " forward ++ "] / [" ++ Text.joined ", " backward ++ "]"
  | .policy message => "execution policy violation: " ++ message
  | .invalidStatement message => "invalid statement: " ++ message
  | .evaluation message => "expression evaluation failed: " ++ message
  | .plain text => text
  | .foreign text => text
  | .unknown => "unknown prism error"
  | .tooDeep => "statement is nested too deeply"

/-- An error: what it says first, and the causes behind it. -/
structure Error where
  /-- The outermost cause, which decides the kind of the error. -/
  head : Cause
  /-- The causes behind it, the innermost last. -/
  rest : List Cause := []
deriving DecidableEq

namespace Error

/-- The error of a single cause. -/
def ofCause (c : Cause) : Error :=
  { head := c }

/-- A feature that a dialect lacks. -/
def unsupported (dialect : Dialect) (feature : String) : Error :=
  ofCause (.unsupported dialect feature)

/-- A statement that does not fit together. -/
def invalidStatement (message : String) : Error :=
  ofCause (.invalidStatement message)

/-- An expression without a value. -/
def evaluation (message : String) : Error :=
  ofCause (.evaluation message)

/-- The error of a text that could not be put together. -/
def formatting : Error :=
  ofCause (.foreign "an error occurred when formatting an argument")

/-- The causes, the outermost first. -/
def causes (e : Error) : List Cause :=
  e.head :: e.rest

/-- The wording of all causes, the outermost first. -/
def text (e : Error) : String :=
  Text.joined ": " (e.causes.map Cause.text)

/-- The error behind a context. A context of one cause becomes the outermost cause. A context that
is in use elsewhere, or has causes of its own, is put in front as a plain message. -/
def inContext (e context : Error) (inUse : Bool) : Error :=
  if context.rest.isEmpty && !inUse then
    ⟨context.head, e.causes⟩
  else
    ⟨.plain context.text, e.causes⟩

/-- The text of an error of another library at the head of the chain. -/
def source? (e : Error) : Option String :=
  match e.head with
  | .foreign text => some text
  | _ => none

end Error

/-- The dialect of a name, in capitals or not. -/
def Dialect.parse (name : String) : Except Error Dialect :=
  match Dialect.ofName? name with
  | some d => .ok d
  | none => .error (.ofCause (.plain ("unknown SQL dialect `" ++ name ++ "`")))

/-- A row that has not as many values as its place asks for. -/
def Error.rowWidth (actual expected : Nat) : Error :=
  .invalidStatement
    ("row has " ++ Nat.repr actual ++ " values, expected " ++ Nat.repr expected)

/-- A subquery that has not as many columns as its place asks for. -/
def Error.subqueryWidth (actual expected : Nat) : Error :=
  .invalidStatement
    ("subquery has " ++ Nat.repr actual ++ " columns, expected " ++ Nat.repr expected)

end Polysql

import Polysql.Dialect.Feature
import Polysql.Query
/-!
Parameters: the values that are bound to a statement, and the placeholders that stand for them.
-/

namespace Polysql

/-- A value that is bound to a statement. -/
structure Parameter where
  /-- The value. -/
  value : Value
  /-- The type it is declared as. -/
  type : DataType
  /-- Its name, if it was given one. -/
  name? : Option String

/-- The parameter of a constant. -/
def Constant.parameter (c : Constant) : Parameter :=
  ⟨c.value, c.type, c.name?⟩

namespace Dialect

/-- The placeholder of the parameter at a position, counted from 1. -/
def placeholder (d : Dialect) (position : Nat) : String :=
  let n := Nat.repr position
  if Feature.postgresLike.contains d then "$" ++ n
  else match d.family with
    | .sqlite => "?" ++ n
    | .oracle => ":" ++ n
    | .sqlServer => "@p" ++ n
    | _ => "?"

/-- What a placeholder with a name begins with. -/
def placeholderMark (d : Dialect) : String :=
  if Feature.postgresLike.contains d then "$"
  else match d.family with
    | .sqlServer | .sybase => "@"
    | _ => ":"

/-- The placeholder of a parameter by its name, or by its position if it has none. -/
def namedPlaceholder (d : Dialect) (position : Nat) (name? : Option String) : String :=
  d.placeholderMark ++ name?.getD ("p" ++ Nat.repr position)

end Dialect

end Polysql

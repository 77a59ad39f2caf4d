import Polysql.Error
import Polysql.Value
/-!
What an evaluation comes to. It yields a value or returns an error, or it does neither: the program
panics where the text to be made would have more bytes than a text can have, and where the result of
an integer operation that is not checked for it has no room in its width.
-/

namespace Polysql

/-- Why an evaluation has no value. -/
inductive Failure where
  /-- It returns an error. -/
  | refused (e : Error)
  /-- It returns nothing: the program panics, with a message. -/
  | panic (message : String)
deriving DecidableEq

namespace Failure

/-- An expression without a value. -/
def evaluation (message : String) : Failure :=
  refused (.evaluation message)

/-- A row that has not as many values as its place asks for. -/
def rowWidth (actual expected : Nat) : Failure :=
  refused (.rowWidth actual expected)

end Failure

/-- What an evaluation comes to: what it yields, or why it yields nothing. -/
abbrev Evaluated (α : Type) := Except Failure α

/-- The outcome of the evaluation of an expression. -/
abbrev Outcome := Evaluated Value

/-- What may be refused, as part of an evaluation. -/
def Evaluated.ofExcept {α : Type} (x : Except Error α) : Evaluated α :=
  x.mapError .refused

/-- An evaluation that is refused. -/
def refuse {α : Type} (message : String) : Evaluated α :=
  .error (.evaluation message)

/-- The most bytes that a text can have. -/
def Text.maxBytes : Nat := 0x7fffffffffffffff

/-- There is room for a text of some bytes. How much memory there is, is left open: every text that
has no more bytes than a text can have is taken to fit. A text that is put together from others, or
has the case of its letters changed, takes at most a few times the bytes of texts that exist, and is
taken to fit as well. -/
def checkRoom (bytes : Nat) : Evaluated Unit :=
  if bytes ≤ Text.maxBytes then .ok () else .error (.panic "capacity overflow")

end Polysql

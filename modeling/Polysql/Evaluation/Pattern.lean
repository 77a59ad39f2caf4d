/-!
Patterns of `LIKE`. In a pattern `%` stands for any text and `_` for any character; an escape
character takes the next character literally.
-/

namespace Polysql.Pattern

/-- What a character of a pattern stands for. -/
inductive Token where
  /-- Any text. -/
  | anyText
  /-- Any character. -/
  | anyChar
  /-- One character. -/
  | char (c : Char)
deriving DecidableEq, Repr

/-- The tokens of a pattern. An escape character at its end stands for itself. -/
def tokens (escape? : Option Char) : List Char → List Token
  | [] => []
  | [c] =>
    if some c = escape? then [.char c]
    else if c = '%' then [.anyText]
    else if c = '_' then [.anyChar]
    else [.char c]
  | c :: d :: cs =>
    if some c = escape? then .char d :: tokens escape? cs
    else if c = '%' then .anyText :: tokens escape? (d :: cs)
    else if c = '_' then .anyChar :: tokens escape? (d :: cs)
    else .char c :: tokens escape? (d :: cs)

/-- Some end of a text, the text itself included, satisfies `p`. -/
def someEnd (p : List Char → Bool) : List Char → Bool
  | [] => p []
  | c :: cs => p (c :: cs) || someEnd p cs

/-- The whole text is read by the tokens in order. -/
def accepts : List Token → List Char → Bool
  | [], cs => cs.isEmpty
  | .anyText :: ts, cs => someEnd (accepts ts) cs
  | .anyChar :: ts, cs =>
    match cs with
    | [] => false
    | _ :: cs => accepts ts cs
  | .char c :: ts, cs =>
    match cs with
    | [] => false
    | d :: cs => d == c && accepts ts cs

/-- The text matches the pattern. -/
def isMatch (escape? : Option Char) (text pattern : String) : Bool :=
  accepts (tokens escape? pattern.toList) text.toList

end Polysql.Pattern

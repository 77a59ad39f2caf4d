import Polysql.Text.Search
/-!
Tags between which a text can stand as it is. A tag must not occur in the text. Of the numbered tags
one more is tried than the text has characters; since each of them would begin at another place of
the text, one is always free.
-/

namespace Polysql.Text

/-- The numbered tags: `$prism$`, `$prism1$`, `$prism2$` and so on. -/
def numberedTag (i : Nat) : String :=
  "$prism" ++ (if i = 0 then "" else Nat.repr i) ++ "$"

/-- The first numbered tag from `i` on that does not occur in a text, if it is one of the next
`n`. -/
def freeTag? (body : String) (i : Nat) : Nat → Option String
  | 0 => none
  | n + 1 =>
    if occursIn (numberedTag i) body then freeTag? body (i + 1) n else some (numberedTag i)

/-- A tag that does not occur in a text: `$$`, else the first numbered one. -/
def dollarTag (body : String) : String :=
  if occursIn "$$" body then (freeTag? body 0 (body.length + 1)).getD "" else "$$"

end Polysql.Text

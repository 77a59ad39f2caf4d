/-!
Searching and replacing inside texts, on their characters.
-/

namespace Polysql.Text

/-- The number of characters before the first occurrence of `part` in a text. -/
def positionIn (part : List Char) : List Char → Option Nat
  | [] => if part.isEmpty then some 0 else none
  | c :: cs =>
    if part.isPrefixOf (c :: cs) then some 0 else (positionIn part cs).map (· + 1)

/-- `part` occurs somewhere in `whole`. -/
def occursIn (part whole : String) : Bool :=
  (positionIn part.toList whole.toList).isSome

/-- Every occurrence of `part`, from the left and without overlap, replaced by `by_`. The number
`skip` says how many characters belong to an occurrence that has already been replaced. -/
def replaceFrom (part by_ : List Char) (skip : Nat) : List Char → List Char
  | [] => []
  | c :: cs =>
    match skip with
    | skip + 1 => replaceFrom part by_ skip cs
    | 0 =>
      if part.isPrefixOf (c :: cs) then
        by_ ++ replaceFrom part by_ (part.length - 1) cs
      else
        c :: replaceFrom part by_ 0 cs

/-- Every occurrence of `part` replaced. The empty text occurs before, between and after all
characters. -/
def replaceAll (s part by_ : String) : String :=
  if part.isEmpty then
    String.ofList (by_.toList ++ s.toList.flatMap fun c => c :: by_.toList)
  else
    String.ofList (replaceFrom part.toList by_.toList 0 s.toList)

/-- A text with every occurrence of one character written twice. -/
def doubled (mark : Char) (s : String) : String :=
  String.ofList (s.toList.flatMap fun c => if c = mark then [c, c] else [c])

/-- The first `n` characters of a text read round and round. -/
def cycled (fill : List Char) (n : Nat) : List Char :=
  (List.range n).filterMap fun i => fill[i % fill.length]?

/-- The bytes that characters take in a text. -/
def bytes : List Char → Nat
  | [] => 0
  | c :: cs => c.utf8Size + bytes cs

/-- The texts with `separator` between them. -/
def joined (separator : String) (parts : List String) : String :=
  separator.intercalate parts

/-- A text several times over. The empty one is the same however often it is repeated. -/
def repeated (s : String) (n : Nat) : String :=
  if s.isEmpty then "" else joined "" (List.replicate n s)

end Polysql.Text

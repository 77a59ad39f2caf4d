import Polysql.Text.CaseTable
/-!
Conversion of a whole text to upper or lower case. A letter may become several characters (`ß` is
`SS` in capitals), and a capital sigma is written as a final one at the end of a word.
-/

namespace Polysql.Text

/-- The form that `runs` and `sequences` give a character outside ASCII. -/
def otherCase (runs : List CaseRun) (sequences : List (Nat × List Nat)) (c : Char) : List Char :=
  match sequences.lookup c.toNat with
  | some cs => cs.map Char.ofNat
  | none => [Char.ofNat ((runs.findSome? (·.image? c.toNat)).getD c.toNat)]

/-- A character in upper case. -/
def upperChar (c : Char) : List Char :=
  if c.toNat < 128 then [c.toUpper] else otherCase upperRuns upperSequences c

/-- A character in lower case, without regard to its neighbours. -/
def lowerChar (c : Char) : List Char :=
  if c.toNat < 128 then [c.toLower] else otherCase lowerRuns lowerSequences c

/-- The character lies in one of the ranges. -/
def inRanges (ranges : List (Nat × Nat)) (c : Char) : Bool :=
  ranges.any fun (first, last) => first ≤ c.toNat && c.toNat ≤ last

/-- The nearest character that is not skipped is a letter with case. -/
def meetsCased (cs : List Char) : Bool :=
  match cs.dropWhile (inRanges caseIgnorableRanges) with
  | [] => false
  | c :: _ => inRanges casedRanges c

/-- Lower case of a text whose part `before`, nearest character first, is already done. -/
def lowerChars (before : List Char) : List Char → List Char
  | [] => []
  | c :: after =>
    let form :=
      if c = 'Σ' then
        if meetsCased before && !meetsCased after then ['ς'] else ['σ']
      else
        lowerChar c
    form ++ lowerChars (c :: before) after

/-- The text in upper case. -/
def toUpper (s : String) : String :=
  String.ofList (s.toList.flatMap upperChar)

/-- The text in lower case. -/
def toLower (s : String) : String :=
  String.ofList (lowerChars [] s.toList)

end Polysql.Text

import Mathlib.Tactic.Lemma
import Polysql.Text.Search
/-!
Texts between delimiters, as an engine reads them. Inside, the closing delimiter is written twice,
and so is a backslash where the engine lets it take the next character; what is written like this is
read back, and reading stops at the closing delimiter (`delimited?_flatMap`).
-/

namespace Polysql.Text

section

variable (closing : Char) (escapes : Bool)

/-- A character between delimiters: the closing delimiter is doubled, and so is a backslash where it
takes the next character as it is. -/
def delimitedChar (c : Char) : List Char :=
  if c = closing ∨ c = '\\' ∧ escapes = true then [c, c] else [c]

/-- What stands between delimiters, from the character after the opening one on, and the text behind
the closing one. Two closing delimiters in a row stand for one of them, and a single one is the end.
Where `escapes` holds, a backslash takes the next character as it is. -/
def delimited? : List Char → Option (List Char × List Char)
  | [] => none
  | [c] => if c = closing then some ([], []) else none
  | c :: d :: cs =>
    if c = closing then
      if d = closing then (delimited? cs).map (Prod.map (d :: ·) id) else some ([], d :: cs)
    else if c = '\\' ∧ escapes = true then (delimited? cs).map (Prod.map (d :: ·) id)
    else (delimited? (d :: cs)).map (Prod.map (c :: ·) id)

lemma delimitedChar_plain :
    delimitedChar closing false = fun c => if c = closing then [c, c] else [c] := by
  funext c
  simp [delimitedChar]

/-- A single closing delimiter is the end. -/
lemma delimited?_closing {rest : List Char} (h : rest.head? ≠ some closing) :
    delimited? closing escapes (closing :: rest) = some ([], rest) := by
  cases rest with
  | nil => rw [delimited?, if_pos rfl]
  | cons c rest =>
    have hc : c ≠ closing := fun hc => h (congrArg some hc)
    rw [delimited?, if_pos rfl, if_neg hc]

/-- A character is read as it was written. -/
lemma delimited?_delimitedChar (c : Char) {cs : List Char} (hcs : cs ≠ []) :
    delimited? closing escapes (delimitedChar closing escapes c ++ cs) =
      (delimited? closing escapes cs).map (Prod.map (c :: ·) id) := by
  obtain ⟨d, cs, rfl⟩ := List.exists_cons_of_ne_nil hcs
  rw [delimitedChar]
  split
  case isTrue h =>
    change delimited? closing escapes (c :: c :: d :: cs) = _
    rw [delimited?]
    by_cases hc : c = closing
    · rw [if_pos hc, if_pos hc]
    · rw [if_neg hc, if_pos (h.resolve_left hc)]
  case isFalse h =>
    obtain ⟨hc, hbackslash⟩ := not_or.mp h
    change delimited? closing escapes (c :: d :: cs) = _
    rw [delimited?, if_neg hc, if_neg hbackslash]

/-- What was written between delimiters is read back, and reading stops at the closing one. -/
lemma delimited?_flatMap (cs : List Char) {rest : List Char} (h : rest.head? ≠ some closing) :
    delimited? closing escapes
        (cs.flatMap (delimitedChar closing escapes) ++ closing :: rest) = some (cs, rest) := by
  induction cs with
  | nil => exact delimited?_closing closing escapes h
  | cons c cs ih =>
    rw [List.flatMap_cons, List.append_assoc, delimited?_delimitedChar _ _ _ (by simp), ih]
    rfl

/-- What is read ahead of other characters ends where it does on its own. -/
lemma exists_of_map_delimited? {cs part rest : List Char} {d : Char}
    (h : (delimited? closing escapes cs).map (Prod.map (d :: ·) id) = some (part, rest)) :
    ∃ part', delimited? closing escapes cs = some (part', rest) := by
  obtain ⟨⟨part', _⟩, hread, heq⟩ := Option.map_eq_some_iff.mp h
  cases heq
  exact ⟨part', hread⟩

/-- Reading takes away the closing delimiter at least. -/
lemma length_of_delimited? {cs part rest : List Char}
    (h : delimited? closing escapes cs = some (part, rest)) : rest.length < cs.length := by
  -- along the recursion, which takes one character or two at a time
  induction cs using delimited?.induct closing escapes generalizing part with
  | case1 => cases h
  | case2 =>
    rw [delimited?, if_pos rfl] at h
    cases h
    exact Nat.zero_lt_one
  | case3 c hc =>
    rw [delimited?, if_neg hc] at h
    cases h
  | case4 cs ih =>
    rw [delimited?, if_pos rfl, if_pos rfl] at h
    obtain ⟨part', hread⟩ := exists_of_map_delimited? closing escapes h
    exact Nat.lt_succ_of_lt (Nat.lt_succ_of_lt (ih hread))
  | case5 d cs hd =>
    rw [delimited?, if_pos rfl, if_neg hd] at h
    cases h
    exact Nat.lt_succ_self _
  | case6 c d cs hc hbackslash ih =>
    rw [delimited?, if_neg hc, if_pos hbackslash] at h
    obtain ⟨part', hread⟩ := exists_of_map_delimited? closing escapes h
    exact Nat.lt_succ_of_lt (Nat.lt_succ_of_lt (ih hread))
  | case7 c d cs hc hbackslash ih =>
    rw [delimited?, if_neg hc, if_neg hbackslash] at h
    obtain ⟨part', hread⟩ := exists_of_map_delimited? closing escapes h
    exact Nat.lt_succ_of_lt (ih hread)

end

end Polysql.Text

import Mathlib.Data.Fintype.Card
import Mathlib.Order.Bounds.Basic
import Polysql.Proofs.Text.Delimited
import Polysql.Text.DollarTag
/-!
Texts inside of others, as an engine reads them: the string literal that comes after given words
(`literalAfter?`), what stands between dollar tags (`dollarQuoted?`), and what stands before the
last of some words (`beforeLast?`). Doubling the quotes of a text makes it a literal of itself
(`literal?_doubled`), and a dollar tag is found at the end of its text only, since it does not occur
in it (`positionIn_dollarTag`).
-/

namespace Polysql.Text

/-! ### Occurrences -/

section

variable {part xs ys : List Char} {i : Nat}

lemma positionIn_cons (part : List Char) (x : Char) (xs : List Char) :
    positionIn part (x :: xs) =
      if part <+: x :: xs then some 0 else (positionIn part xs).map (· + 1) := by
  simp only [positionIn, List.isPrefixOf_iff_prefix]

/-- What is found stands at its place. -/
lemma prefix_of_positionIn (h : positionIn part xs = some i) : part <+: xs.drop i := by
  -- at each place the search stops, or goes on with one character less
  induction xs generalizing i with
  | nil =>
    rw [positionIn] at h
    split at h
    next hpart =>
      rw [List.isEmpty_iff.mp hpart]
      exact List.nil_prefix
    next => cases h
  | cons x xs ih =>
    rw [positionIn_cons] at h
    split at h
    next hbegins =>
      cases h
      exact hbegins
    next =>
      obtain ⟨j, hj, rfl⟩ := Option.map_eq_some_iff.mp h
      exact ih hj

lemma length_of_positionIn (h : positionIn part xs = some i) (hpart : part ≠ []) :
    i + part.length ≤ xs.length := by
  have hle := (prefix_of_positionIn h).length_le
  have hpos := List.length_pos_iff.mpr hpart
  rw [List.length_drop] at hle
  omega

/-- The first occurrence stays the first one when more text follows. -/
lemma positionIn_append (h : positionIn part xs = some i) (hpart : part ≠ []) (ys : List Char) :
    positionIn part (xs ++ ys) = some i := by
  induction xs generalizing i with
  | nil =>
    rw [positionIn, if_neg (by simpa using hpart)] at h
    cases h
  | cons x xs ih =>
    rw [positionIn_cons] at h
    rw [List.cons_append, positionIn_cons]
    split at h
    next hbegins =>
      cases h
      exact if_pos (hbegins.trans (List.prefix_append (x :: xs) ys))
    next hbegins =>
      obtain ⟨j, hj, rfl⟩ := Option.map_eq_some_iff.mp h
      have hlength := length_of_positionIn hj hpart
      -- a prefix of the longer text would be one of the shorter text, which is long enough
      have hnot : ¬part <+: x :: (xs ++ ys) := fun hlong => hbegins <|
        List.prefix_of_prefix_length_le hlong (List.prefix_append (x :: xs) ys)
          (by rw [List.length_cons]; omega)
      rw [if_neg hnot, ih hj, Option.map_some]

/-- What does not occur in a text is found behind it, if it does not begin at its end. -/
lemma positionIn_append_self (h : positionIn part xs = none)
    (hlast : ∀ c, xs.getLast? = some c → c ∉ part) :
    positionIn part (xs ++ part) = some xs.length := by
  induction xs with
  | nil =>
    cases part with
    | nil => rfl
    | cons c cs => rw [List.nil_append, positionIn_cons, if_pos (List.prefix_refl _)]; rfl
  | cons x xs ih =>
    rw [positionIn_cons] at h
    split at h
    next => cases h
    next hbegins =>
      have hlast' : ∀ c, xs.getLast? = some c → c ∉ part := fun c hc => hlast c <| by
        cases xs with
        | nil => cases hc
        | cons y ys => rwa [List.getLast?_cons_cons]
      -- an occurrence further left would end in the text, or hold its last character
      have hnot : ¬part <+: x :: (xs ++ part) := fun hlong => by
        by_cases hlength : part.length ≤ (x :: xs).length
        · exact hbegins (List.prefix_of_prefix_length_le hlong
            (List.prefix_append (x :: xs) part) hlength)
        · have hinside : x :: xs <+: part :=
            List.prefix_of_prefix_length_le (List.prefix_append (x :: xs) part) hlong
              (Nat.le_of_not_le hlength)
          exact hlast _ (List.getLast?_eq_some_getLast (List.cons_ne_nil x xs))
            (hinside.subset (List.getLast_mem (List.cons_ne_nil x xs)))
      rw [List.cons_append, positionIn_cons, if_neg hnot, ih (Option.map_eq_none_iff.mp h) hlast']
      rfl

end

/-! ### Reading -/

/-- What a string literal stands for, from the character after its opening quote on. Two quotes in a
row stand for one, and a single one ends the literal. -/
def literalBody? : List Char → Option (List Char)
  | [] => none
  | '\'' :: '\'' :: cs => (literalBody? cs).map ('\'' :: ·)
  | '\'' :: _ => some []
  | c :: cs => (literalBody? cs).map (c :: ·)

/-- What the string literal in front of a text stands for. -/
def literal? : List Char → Option (List Char)
  | '\'' :: cs => literalBody? cs
  | _ => none

/-- The text behind the first occurrence of some words. -/
def after? (words cs : List Char) : Option (List Char) :=
  (positionIn words cs).map fun i => cs.drop (i + words.length)

/-- The text before the first occurrence of some words. -/
def before? (words cs : List Char) : Option (List Char) :=
  (positionIn words cs).map fun i => cs.take i

/-- The text before the last occurrence of some words. -/
def beforeLast? (words cs : List Char) : Option (List Char) :=
  (after? words.reverse cs.reverse).map List.reverse

/-- What the string literal behind the first occurrence of some words stands for. -/
def literalAfter? (words cs : List Char) : Option (List Char) :=
  (after? words cs).bind literal?

/-- What stands between a dollar tag in front of a text and the next occurrence of that tag. -/
def dollarQuoted? : List Char → Option (List Char)
  | '$' :: cs =>
    (positionIn ['$'] cs).bind fun i => before? ('$' :: cs.take (i + 1)) (cs.drop (i + 1))
  | _ => none

lemma after?_append {before words : List Char} (hwords : words ≠ [])
    (h : positionIn words (before ++ words) = some before.length) (cs : List Char) :
    after? words (before ++ (words ++ cs)) = some cs := by
  rw [after?, ← List.append_assoc, positionIn_append h hwords, Option.map_some,
    ← List.length_append, List.drop_left]

lemma beforeLast?_append {words behind : List Char} (hwords : words ≠ [])
    (h : positionIn words.reverse (behind.reverse ++ words.reverse) = some behind.length)
    (cs : List Char) : beforeLast? words (cs ++ (words ++ behind)) = some cs := by
  rw [← List.length_reverse] at h
  have hafter := after?_append (by simpa using hwords) h cs.reverse
  rw [beforeLast?, List.reverse_append, List.reverse_append, List.append_assoc, hafter,
    Option.map_some, List.reverse_reverse]

/-! ### Literals -/

lemma toList_doubled (mark : Char) (s : String) :
    (doubled mark s).toList = s.toList.flatMap fun c => if c = mark then [c, c] else [c] := by
  rw [doubled, String.toList_ofList]

/-- The body of a literal is read as a text between quotes is where a backslash is a character like
others. -/
lemma literalBody?_eq (cs : List Char) :
    literalBody? cs = (delimited? '\'' false cs).map Prod.fst := by
  induction cs using literalBody?.induct with
  | case1 => rfl
  | case2 cs ih =>
    rw [literalBody?, ih, delimited?, if_pos rfl, if_pos rfl, Option.map_map, Option.map_map]
    rfl
  | case3 cs hcs =>
    have hend : cs.head? ≠ some '\'' := fun h => by
      obtain ⟨ds, rfl⟩ := List.head?_eq_some_iff.mp h
      exact hcs ds rfl
    rw [literalBody?, delimited?_closing '\'' false hend, Option.map_some]
    exact hcs
  -- both take a quote for the end, unless another one follows
  | case4 c cs hquotes hquote ih =>
    have hc : ¬c = '\'' := hquote
    rw [literalBody?, ih]
    · cases cs with
      | nil => simp [delimited?, hc]
      | cons d cs =>
        rw [delimited?.eq_3, if_neg hc, if_neg (by simp), Option.map_map, Option.map_map]
        rfl
    · exact hquotes
    · exact hquote

/-- A text with its quotes doubled is the body of a literal of that text. -/
lemma literalBody?_doubled (cs rest : List Char) (h : rest.head? ≠ some '\'') :
    literalBody? ((cs.flatMap fun c => if c = '\'' then [c, c] else [c]) ++ '\'' :: rest) =
      some cs := by
  rw [literalBody?_eq, ← delimitedChar_plain, delimited?_flatMap '\'' false cs h, Option.map_some]

/-- The literal made of a text by doubling its quotes stands for that text. -/
lemma literal?_doubled (s : String) {rest : List Char} (h : rest.head? ≠ some '\'') :
    literal? ('\'' :: ((doubled '\'' s).toList ++ '\'' :: rest)) = some s.toList := by
  rw [toList_doubled]
  exact literalBody?_doubled s.toList rest h

/-! ### Dollar tags -/

/-- The number of a tag. -/
def tagNumber (i : Nat) : String :=
  if i = 0 then "" else Nat.repr i

lemma numberedTag_toList (i : Nat) :
    (numberedTag i).toList = "$prism".toList ++ ((tagNumber i).toList ++ ['$']) := by
  rw [numberedTag, String.toList_append, String.toList_append, List.append_assoc]
  rfl

lemma tagNumber_injective {i j : Nat} (h : tagNumber i = tagNumber j) : i = j := by
  rw [tagNumber, tagNumber] at h
  split at h <;> split at h
  · omega
  · exact absurd h.symm Nat.repr_ne_empty
  · exact absurd h Nat.repr_ne_empty
  · rw [Nat.repr_eq_ofList_toDigits, Nat.repr_eq_ofList_toDigits, String.ofList_inj] at h
    have hvalue := congrArg (Nat.ofDigitChars 10 · 0) h
    simpa only [Nat.ofDigitChars_toDigits (b := 10) (by decide) (by decide)] using hvalue

lemma not_mem_tagNumber (i : Nat) {c : Char} (hc : c.isDigit = false) :
    c ∉ (tagNumber i).toList := by
  intro h
  rw [tagNumber] at h
  split at h
  · simp at h
  · rw [Nat.repr_eq_ofList_toDigits, String.toList_ofList] at h
    rw [Nat.isDigit_of_mem_toDigits (by decide) (by decide) h] at hc
    cases hc

/-- At one place of a text begins one numbered tag only. -/
lemma numberedTag_injective {i j : Nat} {cs : List Char} (hi : (numberedTag i).toList <+: cs)
    (hj : (numberedTag j).toList <+: cs) : i = j := by
  obtain ⟨restI, rfl⟩ := hi
  obtain ⟨restJ, hij⟩ := hj
  have hnumber (i : Nat) (rest : List Char) :
      ((tagNumber i).toList ++ '$' :: rest).takeWhile (· ≠ '$') = (tagNumber i).toList := by
    have hall : ∀ c ∈ (tagNumber i).toList, decide (c ≠ '$') = true := fun c hc =>
      decide_eq_true fun h => not_mem_tagNumber i rfl (h ▸ hc)
    rw [List.takeWhile_append_of_pos hall]
    simp
  simp only [numberedTag_toList, List.append_assoc, List.append_cancel_left_eq,
    List.singleton_append] at hij
  have := congrArg (List.takeWhile (· ≠ '$')) hij
  rw [hnumber, hnumber, String.toList_inj] at this
  exact (tagNumber_injective this).symm

/-- The tag that is found is the first one that does not occur in the text. -/
lemma freeTag?_eq_some {body : String} {i n : Nat} {tag : String}
    (h : freeTag? body i n = some tag) :
    ∃ j, i ≤ j ∧ j < i + n ∧ tag = numberedTag j ∧ occursIn (numberedTag j) body = false ∧
      ∀ k, i ≤ k → k < j → occursIn (numberedTag k) body = true := by
  induction n generalizing i with
  | zero => cases h
  | succ n ih =>
    rw [freeTag?] at h
    split at h
    next hoccurs =>
      obtain ⟨j, hle, hlt, htag, hfree, hbefore⟩ := ih h
      refine ⟨j, Nat.le_of_succ_le hle, by omega, htag, hfree, fun k hk hkj => ?_⟩
      obtain rfl | hlt := Nat.eq_or_lt_of_le hk
      · exact hoccurs
      · exact hbefore k hlt hkj
    next hfree =>
      cases h
      exact ⟨i, Nat.le_refl i, by omega, rfl, Bool.eq_false_of_not_eq_true hfree,
        fun k hk hki => absurd hki (Nat.not_lt.mpr hk)⟩

lemma freeTag?_eq_none {body : String} {i n : Nat} (h : freeTag? body i n = none) :
    ∀ j < n, occursIn (numberedTag (i + j)) body = true := by
  induction n generalizing i with
  | zero => exact fun j hj => absurd hj (Nat.not_lt_zero j)
  | succ n ih =>
    rw [freeTag?] at h
    split at h
    next hoccurs =>
      intro j hj
      cases j with
      | zero => exact hoccurs
      | succ j =>
        rw [Nat.add_comm j 1, ← Nat.add_assoc]
        exact ih h j (Nat.lt_of_succ_lt_succ hj)
    next => cases h

/-- One of the numbered tags is free: they would have to begin at different places of the text, and
it has fewer places than there are tags to try. -/
lemma freeTag?_isSome (body : String) : (freeTag? body 0 (body.length + 1)).isSome := by
  rw [Option.isSome_iff_ne_none]
  intro hnone
  -- otherwise every number has a place in the body, and there are more numbers than places
  have hplace (j : Fin (body.length + 1)) :
      ∃ p : Fin body.length, (numberedTag j).toList <+: body.toList.drop p := by
    have hoccurs := freeTag?_eq_none hnone j j.isLt
    obtain ⟨p, hp⟩ := Option.isSome_iff_exists.mp hoccurs
    rw [Nat.zero_add] at hp
    have hlength := length_of_positionIn hp (by simp [numberedTag_toList])
    rw [numberedTag_toList, String.length_toList] at hlength
    simp only [List.length_append, List.length_singleton] at hlength
    exact ⟨⟨p, by omega⟩, prefix_of_positionIn hp⟩
  choose place hplace using hplace
  have hinjective : Function.Injective place := fun j k hjk => by
    have hj := hplace j
    rw [hjk] at hj
    exact Fin.ext (numberedTag_injective hj (hplace k))
  have := Fintype.card_le_of_injective place hinjective
  rw [Fintype.card_fin, Fintype.card_fin] at this
  omega

/-- A dollar tag is `$$`, or else the first numbered tag that does not occur in its text. The search
for that one ends before as many tags are tried as the text has places. -/
lemma exists_dollarTag_eq_numberedTag (body : String) :
    ∃ i ≤ body.length, IsLeast {i | occursIn (numberedTag i) body = false} i ∧
      dollarTag body = if occursIn "$$" body then numberedTag i else "$$" := by
  obtain ⟨tag, htag⟩ := Option.isSome_iff_exists.mp (freeTag?_isSome body)
  obtain ⟨i, -, hlt, rfl, hfree, hbefore⟩ := freeTag?_eq_some htag
  refine ⟨i, by omega, ⟨hfree, fun j hj => Nat.le_of_not_lt fun hlt => ?_⟩, ?_⟩
  · have hoccurs := hbefore j (Nat.zero_le j) hlt
    rw [show occursIn (numberedTag j) body = false from hj] at hoccurs
    cases hoccurs
  · rw [dollarTag, htag, Option.getD_some]

/-- A dollar tag does not occur in its text. -/
lemma occursIn_dollarTag (body : String) : occursIn (dollarTag body) body = false := by
  obtain ⟨i, -, hleast, htag⟩ := exists_dollarTag_eq_numberedTag body
  rw [htag]
  split
  next => exact hleast.1
  next hfree => exact Bool.eq_false_of_not_eq_true hfree

/-- A dollar tag is a word between two dollar signs. -/
lemma exists_dollarTag_eq (body : String) :
    ∃ word : List Char, '$' ∉ word ∧ ' ' ∉ word ∧
      (dollarTag body).toList = '$' :: (word ++ ['$']) := by
  obtain ⟨i, -, -, htag⟩ := exists_dollarTag_eq_numberedTag body
  rw [htag]
  split
  next =>
    refine ⟨"prism".toList ++ (tagNumber i).toList, ?_, ?_, ?_⟩
    · exact List.not_mem_append (by decide) (not_mem_tagNumber i rfl)
    · exact List.not_mem_append (by decide) (not_mem_tagNumber i rfl)
    · rw [numberedTag_toList, List.append_assoc]
      rfl
  next => exact ⟨[], by simp, by simp, rfl⟩

/-- Behind a text that ends with a blank, its dollar tag is found where it begins. -/
lemma positionIn_dollarTag {body : String} (h : body.toList.getLast? = some ' ') :
    positionIn (dollarTag body).toList (body.toList ++ (dollarTag body).toList) =
      some body.toList.length := by
  obtain ⟨word, -, hblank, htag⟩ := exists_dollarTag_eq body
  have hfree := occursIn_dollarTag body
  rw [occursIn] at hfree
  refine positionIn_append_self (Option.not_isSome_iff_eq_none.mp (Bool.eq_false_iff.mp hfree))
    fun c hc => ?_
  rw [h] at hc
  cases hc
  rw [htag]
  simpa using hblank

/-- What stands between dollar tags is read as it is, if it ends with a blank. -/
lemma dollarQuoted?_dollarTag {body : String} (h : body.toList.getLast? = some ' ') :
    dollarQuoted? ((dollarTag body).toList ++ (body.toList ++ (dollarTag body).toList)) =
      some body.toList := by
  obtain ⟨word, hdollar, -, htag⟩ := exists_dollarTag_eq body
  -- the tag ends at the second dollar sign, and the body where the tag comes again
  have hend := positionIn_dollarTag h
  have hword (rest : List Char) : positionIn ['$'] (word ++ '$' :: rest) = some word.length := by
    have hnone : positionIn ['$'] word = none := by
      rw [← Option.not_isSome_iff_eq_none, Option.isSome_iff_exists]
      rintro ⟨p, hp⟩
      exact hdollar (List.mem_of_mem_drop
        ((prefix_of_positionIn hp).subset (List.mem_singleton_self '$')))
    have := positionIn_append (positionIn_append_self hnone fun c hc => by
      rw [List.mem_singleton]
      rintro rfl
      exact hdollar (List.mem_of_getLast? hc)) (by simp) rest
    rwa [List.append_assoc] at this
  rw [htag] at hend ⊢
  rw [List.cons_append, dollarQuoted?, List.append_assoc, List.singleton_append, hword,
    Option.bind_some]
  have htake (rest : List Char) : (word ++ '$' :: rest).take (word.length + 1) = word ++ ['$'] := by
    rw [← List.singleton_append, ← List.append_assoc, List.take_left' (by simp)]
  have hdrop (rest : List Char) : (word ++ '$' :: rest).drop (word.length + 1) = rest := by
    rw [← List.singleton_append, ← List.append_assoc, List.drop_left' (by simp)]
  rw [htake, hdrop, before?, hend, Option.map_some, List.take_left]

end Polysql.Text

import Mathlib.Data.List.TakeWhile
import Polysql.Proofs.Text.Embedded
import Polysql.Text.Blank
/-!
Words that occur in a text. A word without white space does not reach across a blank, so it occurs
in a text with blanks exactly if it occurs between them (`infix_separated_iff`). The dollar tag of a
text depends on nothing but the words that occur in it (`dollarTag_congr`), and doubling a mark
changes nothing but the texts between the blanks (`doubled_append`, `doubled_eq_self`).
-/

namespace Polysql.Text

/-! ### Words -/

/-- There is no white space in a text. -/
def IsWord (cs : List Char) : Prop :=
  ∀ c ∈ cs, isBlank c = false

/-- A text consists of white space. -/
def AllBlank (cs : List Char) : Prop :=
  ∀ c ∈ cs, isBlank c = true

lemma AllBlank.append {cs ds : List Char} (hc : AllBlank cs) (hd : AllBlank ds) :
    AllBlank (cs ++ ds) :=
  List.forall_mem_append.mpr ⟨hc, hd⟩

lemma AllBlank.not_mem {cs : List Char} (h : AllBlank cs) {c : Char} (hc : isBlank c = false) :
    c ∉ cs := by
  intro hmem
  rw [h c hmem] at hc
  cases hc

lemma IsWord.not_mem {cs : List Char} (h : IsWord cs) {c : Char} (hc : isBlank c = true) :
    c ∉ cs := by
  intro hmem
  rw [h c hmem] at hc
  cases hc

lemma isWord_of_all {cs : List Char} (h : (cs.all fun c => !isBlank c) = true) : IsWord cs := by
  intro c hc
  simpa using List.all_eq_true.mp h c hc

/-- A text without blanks is not trimmed. -/
lemma trim_eq_self {s : String} (h : IsWord s.toList) : trim s = s := by
  have hdrop (cs : List Char) (hcs : IsWord cs) : cs.dropWhile isBlank = cs := by
    rw [List.dropWhile_eq_self_iff]
    intro hlength
    rw [hcs _ (List.getElem_mem hlength)]
    exact Bool.false_ne_true
  have hstart : trimStart s = s := by
    rw [trimStart, hdrop _ h, String.ofList_toList]
  rw [trim, hstart, trimEnd, hdrop, List.reverse_reverse, String.ofList_toList]
  intro c hc
  exact h c (List.mem_reverse.mp hc)

lemma isBlank_of_isDigit {c : Char} (h : c.isDigit = true) : isBlank c = false := by
  have hbounds : 48 ≤ c.toNat ∧ c.toNat ≤ 57 := by
    simpa [Char.isDigit, UInt32.le_iff_toNat_le] using h
  simp only [isBlank, Bool.or_eq_false_iff, Bool.and_eq_false_iff, decide_eq_false_iff_not,
    beq_eq_false_iff_ne]
  omega

lemma isWord_numberedTag (i : Nat) : IsWord (numberedTag i).toList := by
  have hnumber : IsWord (tagNumber i).toList := by
    intro c hc
    by_contra hblank
    refine not_mem_tagNumber i (Bool.eq_false_iff.mpr fun hdigit => ?_) hc
    exact hblank (isBlank_of_isDigit hdigit)
  rw [numberedTag_toList]
  refine List.forall_mem_append.mpr ⟨isWord_of_all (by decide +kernel), ?_⟩
  exact List.forall_mem_append.mpr ⟨hnumber, isWord_of_all (by decide +kernel)⟩

/-! ### Occurrences -/

lemma positionIn_isSome_iff {part xs : List Char} :
    (positionIn part xs).isSome = true ↔ part <:+: xs := by
  induction xs with
  | nil => simp [positionIn]
  | cons x xs ih =>
    rw [positionIn_cons, List.infix_cons_iff, ← ih]
    split
    next hbegins => simp [hbegins]
    next hbegins => simp [hbegins]

lemma occursIn_iff {part whole : String} :
    occursIn part whole = true ↔ part.toList <:+: whole.toList :=
  positionIn_isSome_iff

section

variable {part ys : List Char} {c : Char} (xs : List Char)

/-- What stands in front of a character and does not contain it ends before it. -/
lemma prefix_of_prefix_append_cons (hc : c ∉ part) (h : part <+: xs ++ c :: ys) : part <+: xs := by
  have hend : xs ++ [c] <+: xs ++ c :: ys := ⟨ys, by simp⟩
  obtain hle | hge := List.prefix_or_prefix_of_prefix h hend
  · obtain rfl | hle := List.prefix_concat_iff.mp hle
    · exact absurd (by simp) hc
    · exact hle
  · exact absurd (hge.subset (by simp)) hc

/-- What does not contain a character occurs before or behind it. -/
lemma infix_append_cons_iff (hc : c ∉ part) :
    part <:+: xs ++ c :: ys ↔ part <:+: xs ∨ part <:+: ys := by
  constructor
  · intro h
    induction xs with
    | nil =>
      -- an occurrence that begins in front of `c` ends there, since `c` is not in it
      obtain hbegins | hinside := List.infix_cons_iff.mp h
      · exact .inl (prefix_of_prefix_append_cons [] hc hbegins).isInfix
      · exact .inr hinside
    | cons x xs ih =>
      obtain hbegins | hinside := List.infix_cons_iff.mp h
      · exact .inl (prefix_of_prefix_append_cons (x :: xs) hc hbegins).isInfix
      · exact (ih hinside).imp_left List.infix_cons
  · rintro (h | h)
    · exact h.trans (List.prefix_append xs (c :: ys)).isInfix
    · exact h.trans ((List.suffix_cons c ys).trans (List.suffix_append xs (c :: ys))).isInfix

/-- A word occurs behind white space as it does without. -/
lemma infix_blank_append_iff {blank : List Char} (hword : IsWord part) (hblank : AllBlank blank) :
    part <:+: blank ++ ys ↔ part <:+: ys := by
  induction blank with
  | nil => rw [List.nil_append]
  | cons b blank ih =>
    obtain ⟨hb, hblank⟩ := List.forall_mem_cons.mp hblank
    have hsplit : part <:+: b :: (blank ++ ys) ↔ part <:+: [] ∨ part <:+: blank ++ ys :=
      infix_append_cons_iff [] (hword.not_mem hb)
    rw [List.cons_append, hsplit, ih hblank]
    refine ⟨?_, .inr⟩
    rintro (hnil | h)
    · rw [List.infix_nil.mp hnil]
      exact List.nil_infix
    · exact h

variable {xs} in
/-- A word occurs in texts with white space between them if it occurs in one of them. -/
lemma infix_separated_iff {blank : List Char} (hword : IsWord part) (hblank : AllBlank blank)
    (hne : blank ≠ []) :
    part <:+: xs ++ (blank ++ ys) ↔ part <:+: xs ∨ part <:+: ys := by
  obtain ⟨b, blank, rfl⟩ := List.exists_cons_of_ne_nil hne
  obtain ⟨hb, hblank⟩ := List.forall_mem_cons.mp hblank
  rw [List.cons_append, infix_append_cons_iff _ (hword.not_mem hb),
    infix_blank_append_iff hword hblank]

end

/-! ### Dollar tags -/

/-- Texts in which the same tags occur have the same dollar tag, however long they are. -/
lemma dollarTag_eq_of_tags {a b : String} (hplain : occursIn "$$" a = occursIn "$$" b)
    (hnumbered : ∀ i, occursIn (numberedTag i) a = occursIn (numberedTag i) b) :
    dollarTag a = dollarTag b := by
  obtain ⟨i, -, hi, ha⟩ := exists_dollarTag_eq_numberedTag a
  obtain ⟨j, -, hj, hb⟩ := exists_dollarTag_eq_numberedTag b
  simp only [hnumbered] at hi
  rw [ha, hb, hplain, hi.unique hj]

/-- Texts in which the same words occur have the same dollar tag. -/
lemma dollarTag_congr {a b : String}
    (h : ∀ word : String, IsWord word.toList → occursIn word a = occursIn word b) :
    dollarTag a = dollarTag b :=
  dollarTag_eq_of_tags (h "$$" (isWord_of_all (by decide +kernel)))
    fun i => h (numberedTag i) (isWord_numberedTag i)

/-- What begins with a mark occurs behind a text without that mark as it does on its own. -/
lemma infix_behind_iff {mark : Char} {word before body : List Char} (hbefore : mark ∉ before) :
    mark :: word <:+: before ++ body ↔ mark :: word <:+: body := by
  induction before with
  | nil => rfl
  | cons c before ih =>
    obtain ⟨hc, hbefore⟩ := not_or.mp (List.mem_cons.not.mp hbefore)
    rw [List.cons_append, List.infix_cons_iff, ih hbefore, List.cons_prefix_cons]
    exact or_iff_right fun h => hc h.1

/-- What begins and ends with a mark occurs in the middle of a text if the mark does not occur
elsewhere. -/
lemma infix_between_iff {mark : Char} {word before body after : List Char}
    (hbefore : mark ∉ before) (hafter : mark ∉ after) :
    mark :: (word ++ [mark]) <:+: before ++ (body ++ after) ↔
      mark :: (word ++ [mark]) <:+: body := by
  have hreversed : (mark :: (word ++ [mark])).reverse = mark :: (word.reverse ++ [mark]) := by
    simp
  rw [infix_behind_iff hbefore, ← List.reverse_infix, List.reverse_append, hreversed,
    infix_behind_iff (by rwa [List.mem_reverse]), ← hreversed, List.reverse_infix]

/-- What is written around a text without a dollar sign does not change its dollar tag. -/
lemma dollarTag_between {before after : String} (hbefore : '$' ∉ before.toList)
    (hafter : '$' ∉ after.toList) (body : String) :
    dollarTag (before ++ body ++ after) = dollarTag body := by
  have htag (tag : String) (word : List Char) (h : tag.toList = '$' :: (word ++ ['$'])) :
      occursIn tag (before ++ body ++ after) = occursIn tag body := by
    rw [Bool.eq_iff_iff, occursIn_iff, occursIn_iff, h, String.toList_append, String.toList_append,
      List.append_assoc]
    exact infix_between_iff hbefore hafter
  refine dollarTag_eq_of_tags (htag "$$" [] (by decide)) fun i => ?_
  refine htag (numberedTag i) ("prism".toList ++ (tagNumber i).toList) ?_
  rw [numberedTag_toList, List.append_assoc]
  rfl

/-! ### Doubled marks -/

lemma doubled_append (mark : Char) (s t : String) :
    doubled mark (s ++ t) = doubled mark s ++ doubled mark t := by
  rw [doubled, doubled, doubled, String.toList_append, List.flatMap_append, String.ofList_append]

lemma doubled_eq_self {mark : Char} {s : String} (h : mark ∉ s.toList) : doubled mark s = s := by
  have hall (cs : List Char) (hcs : mark ∉ cs) :
      (cs.flatMap fun c => if c = mark then [c, c] else [c]) = cs := by
    induction cs with
    | nil => rfl
    | cons c cs ih =>
      obtain ⟨hc, hcs⟩ : mark ≠ c ∧ mark ∉ cs := by simpa using hcs
      rw [List.flatMap_cons, if_neg (Ne.symm hc), ih hcs, List.singleton_append]
  rw [doubled, hall s.toList h, String.ofList_toList]

end Polysql.Text

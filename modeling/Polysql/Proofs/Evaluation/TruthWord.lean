import Polysql.Proofs.Evaluation.Detour
import Polysql.Proofs.Evaluation.Negation
import Polysql.Proofs.Place.Descent
import Polysql.Proofs.Text.Case
import Polysql.Proofs.Text.Occurrence
/-!
Texts as truth values. A cast takes a text for true or false if it is one of a few words, whatever
blanks surround it and however its ASCII letters are written. Where an engine has no such cast, a
`CASE` compares the text in small letters with the same words. Both know the same words, since no
letter outside ASCII has a small form that occurs in one of them (`Text.toLower_eq_iff`). But the
`CASE` leaves the blanks: so they agree exactly on the texts that no blanks surround, and on those
that are no words without them, either (`Expr.eval_textAsTruth_iff`).
-/

namespace Polysql

open Text Writers

/-! ### Words -/

/-- The truth that a word stands for. -/
def Truth.ofWord (word : String) : Truth :=
  if trueTexts.contains word then some true
  else if falseTexts.contains word then some false
  else none

lemma Value.truthOfText_eq (s : String) :
    truthOfText s = (Truth.ofWord (foldCase (trim s))).toValue := by
  rw [truthOfText, Truth.ofWord]
  split_ifs <;> rfl

lemma Truth.toValue_inj {t u : Truth} : t.toValue = u.toValue ↔ t = u := by
  rcases t with _ | _ <;> rcases u with _ | _ <;> simp [toValue]

/-- The words that stand for a truth have no blanks, and none but small letters. -/
lemma chars_of_truthWord :
    ∀ word ∈ trueTexts ++ falseTexts, ∀ c ∈ word.toList, IsAsciiForm c ∧ isBlank c = false := by
  have hwords : (trueTexts ++ falseTexts).all
      (fun word => word.toList.all fun c => decide (IsAsciiForm c) && !isBlank c) = true := rfl
  intro word hword c hc
  have hc := List.all_eq_true.mp (List.all_eq_true.mp hwords word hword) c hc
  rwa [Bool.and_eq_true, decide_eq_true_eq, Bool.not_eq_true'] at hc

lemma Truth.mem_of_ofWord_ne {word : String} (h : ofWord word ≠ none) :
    word ∈ trueTexts ++ falseTexts := by
  rw [ofWord] at h
  split_ifs at h with htrue hfalse
  · exact List.mem_append_left _ (List.contains_iff_mem.mp htrue)
  · exact List.mem_append_right _ (List.contains_iff_mem.mp hfalse)
  · exact absurd rfl h

/-- Small letters of all kinds and those of ASCII give words for the same truth. -/
lemma Truth.ofWord_toLower (s : String) : ofWord (toLower s) = ofWord (foldCase s) := by
  have hword (word) (h : word ∈ trueTexts ++ falseTexts) : toLower s = word ↔ foldCase s = word :=
    toLower_eq_iff fun c hc => (chars_of_truthWord word h c hc).1
  have hiff (words : List String) (hwords : ∀ word ∈ words, word ∈ trueTexts ++ falseTexts) :
      words.contains (toLower s) = words.contains (foldCase s) := by
    rw [Bool.eq_iff_iff, List.contains_iff_mem, List.contains_iff_mem]
    constructor
    · intro h
      exact (hword _ (hwords _ h)).mp rfl ▸ h
    · intro h
      exact (hword _ (hwords _ h)).mpr rfl ▸ h
  rw [ofWord, ofWord, hiff trueTexts fun word => List.mem_append_left _,
    hiff falseTexts fun word => List.mem_append_right _]

/-! ### Blanks -/

/-- Blanks are no letters. -/
lemma Text.toLower_of_isBlank {c : Char} (h : isBlank c = true) : c.toLower = c := by
  refine toLower_eq_self ?_
  simp only [isBlank, Bool.or_eq_true, Bool.and_eq_true, decide_eq_true_eq, beq_iff_eq] at h
  omega

/-- What is a word for a truth but for its letters has no blanks. -/
lemma Truth.trim_of_ofWord_ne {s : String} (h : ofWord (foldCase s) ≠ none) : trim s = s := by
  refine trim_eq_self fun c hc => ?_
  by_contra hblank
  rw [Bool.not_eq_false] at hblank
  have hmem : c ∈ (foldCase s).toList := by
    rw [foldCase, String.toList_map, ← toLower_of_isBlank hblank]
    exact List.mem_map_of_mem hc
  have hnone := (chars_of_truthWord _ (mem_of_ofWord_ne h) c hmem).2
  rw [hblank] at hnone
  cases hnone

/-- The text and the text without its blanks stand for the same truth exactly if there are none, or
the text stands for nothing without them, either. -/
lemma Truth.ofWord_trim_iff (s : String) :
    ofWord (foldCase (trim s)) = ofWord (toLower s) ↔
      trim s = s ∨ ofWord (foldCase (trim s)) = none := by
  rw [ofWord_toLower]
  by_cases hword : ofWord (foldCase s) = none
  · rw [hword]
    constructor
    · exact .inr
    · rintro (htrim | hnone)
      · rw [htrim, hword]
      · exact hnone
  · have htrim := trim_of_ofWord_ne hword
    exact iff_of_true (by rw [htrim]) (.inl htrim)

/-! ### The cast and the case -/

lemma Truth.compare_strings (s t : String) :
    compare (.string s) .eq (.string t) = some (s == t) := by
  change some (compareOfLessAndEq s t == .eq) = some (s == t)
  rw [compareOfLessAndEq]
  split_ifs with hlt heq
  · have hne : s ≠ t := fun h => String.lt_irrefl t (h ▸ hlt)
    rw [beq_eq_false_iff_ne.mpr hne]
    rfl
  · rw [beq_iff_eq.mpr heq]
    rfl
  · rw [beq_eq_false_iff_ne.mpr heq]
    rfl

/-- A text is among some others. -/
lemma Truth.inList_strings (s : String) (words : List String) :
    inList (.string s) (words.map .string) false = some (words.contains s) := by
  rw [inList, negateIf_false, List.map_map, List.contains_eq_any_beq, ← any_map_some]
  exact congrArg any (List.map_congr_left fun word _ => compare_strings s word)

section

variable {columns : Bindings} {e : Expr} {v : Value}

lemma Expr.eval_cast_boolean (he : e.eval columns = .ok v) :
    (cast e .boolean).eval columns = v.cast .boolean := by
  change (do (← e.eval columns).cast .boolean) = _
  rw [he, ok_bind]

/-- The cast of a text gives the truth that it stands for without its blanks. -/
lemma Expr.eval_castText {s : String} (he : e.eval columns = .ok (.string s)) :
    (cast e .boolean).eval columns = .ok (Truth.ofWord (foldCase (trim s))).toValue :=
  (eval_cast_boolean he).trans (congrArg Except.ok (Value.truthOfText_eq s))

/-- Where there are no casts to truth values, that of a text is drafted as its `CASE`. -/
lemma Expr.expr_castText {s : Scope} (hs : s.has Feature.booleanCasts = false)
    (he : e.type.isString = true) :
    ofRank.expr s (.cast e .boolean) = ofRank.expr s e.textAsTruth := by
  have hnumeric : e.type.isNumeric = false := by
    cases htype : e.type <;> rw [htype] at he <;> first | rfl | cases he
  rw [expr_ofRank]
  change ofRank.cast s e .boolean = _
  rw [Writers.cast, hs, he, hnumeric]
  rfl

/-- The condition that a text in small letters is one of some words. -/
def Expr.isOneOf (e : Expr) (words : List String) : Condition :=
  .inList (callOf .lower [e]) (words.map fun word => literal (.string word)) false

lemma Expr.eval_isOneOf (words : List String) (he : e.eval columns = .ok v) :
    (e.isOneOf words).eval columns = do
      return Truth.inList (← Func.lower.apply [v]) (words.map .string) false := by
  have hwords : evalEach columns (words.map fun word => literal (.string word)) =
      (words.map Value.string).map .ok := by
    rw [evalEach_eq_map, List.map_map, List.map_map]
    rfl
  rw [isOneOf, Predicate.eval_inList, eval_lower, he, hwords, collect_map_ok]
  rfl

/-- The `CASE` of a cast, by the texts that are true and those that are false. -/
lemma Expr.eval_textAsTruth {w : Value} (he : e.eval columns = .ok v)
    (hw : Func.lower.apply [v] = .ok w) :
    e.textAsTruth.eval columns = .ok
      (if Truth.inList w (trueTexts.map .string) false = some true then .boolean true
      else if Truth.inList w (falseTexts.map .string) false = some true then .boolean false
      else .null) := by
  have hcase : e.textAsTruth = .caseWhen [(e.isOneOf trueTexts, truth true),
      (e.isOneOf falseTexts, truth false)] none := rfl
  rw [hcase, eval_caseWhen, evalBranches_cons, evalBranches_cons, eval_isOneOf _ he,
    eval_isOneOf _ he, hw]
  simp only [ok_bind, pure_bind]
  split_ifs <;> rfl

lemma Expr.eval_textAsTruth_null (he : e.eval columns = .ok .null) :
    e.textAsTruth.eval columns = .ok .null :=
  eval_textAsTruth he rfl

/-- The `CASE` gives the truth that the text in small letters stands for. -/
lemma Expr.eval_textAsTruth_string {s : String} (he : e.eval columns = .ok (.string s)) :
    e.textAsTruth.eval columns = .ok (Truth.ofWord (toLower s)).toValue := by
  have hlower : Func.lower.apply [.string s] = .ok (.string (toLower s)) := rfl
  rw [eval_textAsTruth he hlower, Truth.inList_strings, Truth.inList_strings, Truth.ofWord]
  simp only [Option.some.injEq]
  split_ifs <;> rfl

/-- **Texts as truth values.** On an engine without casts to truth values, a text is compared in
small letters with the words that stand for one. Of a text, and of NULL, the cast and the comparison
both give a truth value or NULL. They give the same exactly if the text has no blanks around it, or
stands for nothing without them, either. -/
theorem Expr.eval_textAsTruth_iff (he : e.eval columns = .ok v) (hv : v.IsTextual) :
    (∀ s : Scope, s.has Feature.booleanCasts = false → e.type.isString = true →
      ofRank.expr s (.cast e .boolean) = ofRank.expr s e.textAsTruth) ∧
    ∃ t u : Truth, (Expr.cast e .boolean).eval columns = .ok t.toValue ∧
      e.textAsTruth.eval columns = .ok u.toValue ∧
      (t = u ↔ ∀ s, v = .string s → trim s = s ∨ Value.truthOfText s = .null) := by
  refine ⟨fun s => expr_castText, ?_⟩
  obtain rfl | ⟨s, rfl⟩ := hv
  · exact ⟨none, none, eval_cast_boolean he, eval_textAsTruth_null he, iff_of_true rfl nofun⟩
  · refine ⟨_, _, eval_castText he, eval_textAsTruth_string he, ?_⟩
    have hnull : Value.truthOfText s = .null ↔ Truth.ofWord (foldCase (trim s)) = none := by
      rw [Value.truthOfText_eq]
      exact Truth.toValue_inj (u := none)
    simp only [Value.string.injEq, forall_eq', hnull]
    exact Truth.ofWord_trim_iff s

/-- Capitals make no difference. -/
theorem Expr.eval_textAsTruth_iff_capitals :
    (Expr.cast (.literal (.string "YeS")) .boolean).eval Bindings.none_ = .ok (.boolean true) ∧
      (Expr.literal (.string "YeS")).textAsTruth.eval Bindings.none_ = .ok (.boolean true) := by
  obtain ⟨-, t, u, ht, hu, hiff⟩ := Expr.eval_textAsTruth_iff
    (rfl : (Expr.literal (.string "YeS")).eval Bindings.none_ = .ok (.string "YeS"))
    (.inr ⟨"YeS", rfl⟩)
  have htu : t = u := by
    refine hiff.mpr fun s hs => .inl ?_
    cases hs
    decide
  have hword : Truth.ofWord (toLower "YeS") = some true := by decide
  have hu' := (eval_textAsTruth_string rfl).symm.trans hu
  rw [hword] at hu'
  rw [ht, hu, htu, ← hu']
  exact ⟨rfl, rfl⟩

/-- A blank does: it is not trimmed in the `CASE`, which is all that is drafted on MySQL. -/
theorem Expr.eval_textAsTruth_blank :
    let e := Expr.literal (.string " true")
    let s : Scope := { target := ⟨.mySql, none, .ignore, .ignore⟩ }
    e.eval Bindings.none_ = .ok (.string " true") ∧
      ofRank.expr s (.cast e .boolean) = ofRank.expr s e.textAsTruth ∧
      (Expr.cast e .boolean).eval Bindings.none_ = .ok (.boolean true) ∧
      e.textAsTruth.eval Bindings.none_ = .ok .null := by
  have hword : Truth.ofWord (foldCase (trim " true")) = some true := by
    rw [foldCase_eq]
    decide
  refine ⟨rfl, expr_castText rfl rfl, ?_, rfl⟩
  rw [eval_castText rfl, hword]
  rfl

end

end Polysql

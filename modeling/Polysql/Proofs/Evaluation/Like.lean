import Mathlib.Data.List.Forall2
import Polysql.Proofs.Evaluation.Detour
/-!
The language of a pattern. A pattern spells tokens, where the escape character goes first, even if
it is one of the wildcards (`Pattern.Spells`), and describes the texts that consist of one piece for
each token (`Pattern.Describes`). The matcher, which tries the ends of the text at every `%`,
accepts exactly these (`Pattern.isMatch_iff`), and so does `LIKE` (`Condition.eval_like_iff`).
-/

namespace Polysql

namespace Pattern

/-! ### What a pattern says -/

/-- What a character stands for that has not been escaped. -/
def Token.ofChar (c : Char) : Token :=
  if c = '%' then .anyText else if c = '_' then .anyChar else .char c

/-- The tokens of a pattern. An escape character goes before the next character, which stands for
itself, and stands for itself at the end. -/
inductive Spells (escape? : Option Char) : List Char → List Token → Prop
  | nil : Spells escape? [] []
  | escaped {e c : Char} {cs : List Char} {ts : List Token} :
      escape? = some e → Spells escape? cs ts → Spells escape? (e :: c :: cs) (.char c :: ts)
  | trailing {e : Char} : escape? = some e → Spells escape? [e] [.char e]
  | plain {c : Char} {cs : List Char} {ts : List Token} :
      escape? ≠ some c → Spells escape? cs ts → Spells escape? (c :: cs) (Token.ofChar c :: ts)

/-- The pieces of text that a token stands for. -/
def Token.Covers : Token → List Char → Prop
  | .anyText, _ => True
  | .anyChar, piece => piece.length = 1
  | .char c, piece => piece = [c]

/-- A text is made of pieces, one for each token in order. -/
def Covers (ts : List Token) (text : List Char) : Prop :=
  ∃ pieces : List (List Char), List.Forall₂ Token.Covers ts pieces ∧ pieces.flatten = text

/-- A text is in the language of a pattern. -/
def Describes (escape? : Option Char) (pattern text : List Char) : Prop :=
  ∃ ts, Spells escape? pattern ts ∧ Covers ts text

/-! ### Tokens -/

section

variable {escape? : Option Char}

lemma tokens_escaped {e : Char} (h : escape? = some e) (c : Char) (cs : List Char) :
    tokens escape? (e :: c :: cs) = .char c :: tokens escape? cs := by
  rw [tokens, if_pos h.symm]

lemma tokens_trailing {e : Char} (h : escape? = some e) : tokens escape? [e] = [.char e] := by
  rw [tokens, if_pos h.symm]

lemma tokens_plain {c : Char} (h : escape? ≠ some c) (cs : List Char) :
    tokens escape? (c :: cs) = Token.ofChar c :: tokens escape? cs := by
  have hc : ¬some c = escape? := Ne.symm h
  cases cs with
  | nil =>
    change tokens escape? [c] = [Token.ofChar c]
    rw [tokens, if_neg hc, Token.ofChar]
    split_ifs <;> rfl
  | cons d cs =>
    rw [tokens, if_neg hc, Token.ofChar]
    split_ifs <;> rfl

lemma spells_tokens (escape? : Option Char) : ∀ cs, Spells escape? cs (tokens escape? cs)
  | [] => .nil
  | [c] => by
    by_cases h : escape? = some c
    · rw [tokens_trailing h]
      exact .trailing h
    · rw [tokens_plain h]
      exact .plain h .nil
  | c :: d :: cs => by
    by_cases h : escape? = some c
    · rw [tokens_escaped h]
      exact .escaped h (spells_tokens escape? cs)
    · rw [tokens_plain h]
      exact .plain h (spells_tokens escape? (d :: cs))

lemma Spells.tokens_eq {cs : List Char} {ts : List Token} (h : Spells escape? cs ts) :
    tokens escape? cs = ts := by
  induction h with
  | nil => rfl
  | escaped he _ ih => rw [tokens_escaped he, ih]
  | trailing he => exact tokens_trailing he
  | plain hc _ ih => rw [tokens_plain hc, ih]

/-- A pattern spells one list of tokens. -/
lemma spells_iff {cs : List Char} {ts : List Token} :
    Spells escape? cs ts ↔ tokens escape? cs = ts :=
  ⟨Spells.tokens_eq, fun h => h ▸ spells_tokens escape? cs⟩

end

/-! ### Pieces -/

lemma covers_nil {cs : List Char} : Covers [] cs ↔ cs = [] := by
  constructor
  · rintro ⟨_, ⟨⟩, rfl⟩
    rfl
  · rintro rfl
    exact ⟨[], .nil, rfl⟩

lemma covers_cons {t : Token} {ts : List Token} {cs : List Char} :
    Covers (t :: ts) cs ↔ ∃ piece rest, piece ++ rest = cs ∧ t.Covers piece ∧ Covers ts rest := by
  constructor
  · rintro ⟨_, ht | ⟨ht, hts⟩, rfl⟩
    exact ⟨_, _, rfl, ht, _, hts, rfl⟩
  · rintro ⟨piece, _, rfl, ht, pieces, hts, rfl⟩
    exact ⟨piece :: pieces, .cons ht hts, rfl⟩

lemma covers_anyText {ts : List Token} {cs : List Char} :
    Covers (.anyText :: ts) cs ↔ ∃ piece rest, piece ++ rest = cs ∧ Covers ts rest := by
  simp only [covers_cons, Token.Covers, true_and]

lemma covers_anyChar {ts : List Token} {cs : List Char} :
    Covers (.anyChar :: ts) cs ↔ ∃ c rest, c :: rest = cs ∧ Covers ts rest := by
  rw [covers_cons]
  constructor
  · rintro ⟨_, rest, rfl, hpiece, h⟩
    obtain ⟨c, rfl⟩ := List.length_eq_one_iff.mp hpiece
    exact ⟨c, rest, rfl, h⟩
  · rintro ⟨c, rest, rfl, h⟩
    exact ⟨[c], rest, rfl, rfl, h⟩

lemma covers_char {c : Char} {ts : List Token} {cs : List Char} :
    Covers (.char c :: ts) cs ↔ ∃ rest, c :: rest = cs ∧ Covers ts rest := by
  rw [covers_cons]
  constructor
  · rintro ⟨_, rest, rfl, rfl, h⟩
    exact ⟨rest, rfl, h⟩
  · rintro ⟨rest, rfl, h⟩
    exact ⟨[c], rest, rfl, rfl, h⟩

lemma someEnd_iff {p : List Char → Bool} {cs : List Char} :
    someEnd p cs = true ↔ ∃ piece rest, piece ++ rest = cs ∧ p rest = true := by
  induction cs with
  | nil =>
    refine ⟨fun h => ⟨[], [], rfl, h⟩, ?_⟩
    rintro ⟨piece, rest, hcs, h⟩
    obtain ⟨rfl, rfl⟩ := List.append_eq_nil_iff.mp hcs
    exact h
  | cons c cs ih =>
    rw [someEnd, Bool.or_eq_true, ih]
    -- the wildcard ends here, or takes the first character and goes on
    constructor
    · rintro (h | ⟨piece, rest, rfl, h⟩)
      · exact ⟨[], c :: cs, rfl, h⟩
      · exact ⟨c :: piece, rest, rfl, h⟩
    · rintro ⟨_ | ⟨d, piece⟩, rest, hcs, h⟩
      · rw [List.nil_append] at hcs
        exact .inl (hcs ▸ h)
      · exact .inr ⟨piece, rest, (List.cons.inj hcs).2, h⟩

/-- The matcher finds the pieces of a text if there are any. -/
lemma accepts_iff {ts : List Token} {cs : List Char} : accepts ts cs = true ↔ Covers ts cs := by
  induction ts generalizing cs with
  | nil => rw [accepts, List.isEmpty_iff, covers_nil]
  | cons t ts ih =>
    cases t with
    | anyText => simp only [accepts, someEnd_iff, ih, covers_anyText]
    | anyChar => cases cs <;> simp [accepts, ih, covers_anyChar]
    | char c =>
      cases cs with
      | nil => simp [accepts, covers_char]
      | cons d cs => simp [accepts, ih, covers_char, @eq_comm _ d c]

lemma describes_iff {escape? : Option Char} {ps cs : List Char} :
    Describes escape? ps cs ↔ Covers (tokens escape? ps) cs := by
  simp only [Describes, spells_iff, exists_eq_left']

/-- A text matches a pattern exactly when the pattern describes it. -/
theorem isMatch_iff {escape? : Option Char} {text pattern : String} :
    isMatch escape? text pattern = true ↔ Describes escape? pattern.toList text.toList := by
  rw [isMatch, accepts_iff, describes_iff]

/-! ### Literal patterns -/

/-- The pattern for one text: the escape character goes before the wildcards and before itself. -/
def escaped (e : Char) (s : String) : String :=
  String.ofList (s.toList.flatMap fun c => if c = '%' ∨ c = '_' ∨ c = e then [e, c] else [c])

/-- The pattern for one text has nothing but characters. -/
lemma spells_escaped (e : Char) (s : String) :
    Spells (some e) (escaped e s).toList (s.toList.map .char) := by
  rw [escaped, String.toList_ofList]
  induction s.toList with
  | nil => exact .nil
  | cons c cs ih =>
    rw [List.flatMap_cons, List.map_cons]
    split_ifs with h
    · exact .escaped rfl ih
    · obtain ⟨hpercent, hunderscore, he⟩ : c ≠ '%' ∧ c ≠ '_' ∧ c ≠ e := by simpa using h
      have hplain := Spells.plain (fun h => he (Option.some.inj h).symm) ih
      rwa [Token.ofChar, if_neg hpercent, if_neg hunderscore] at hplain

lemma covers_map_char {cs ds : List Char} : Covers (cs.map .char) ds ↔ ds = cs := by
  induction cs generalizing ds with
  | nil => exact covers_nil
  | cons c cs ih => simp [covers_char, ih, eq_comm]

/-- The pattern for a text describes that text only. -/
lemma describes_escaped {e : Char} {s : String} {cs : List Char} :
    Describes (some e) (escaped e s).toList cs ↔ cs = s.toList := by
  rw [describes_iff, (spells_escaped e s).tokens_eq, covers_map_char]

end Pattern

/-! ### `LIKE` -/

open Pattern

namespace Condition

lemma eval_like_texts (columns : Bindings) {l : Like} {s p : String}
    (htext : l.text.eval columns = .ok (.string s))
    (hpattern : l.pattern.eval columns = .ok (.string p)) :
    (like l).eval columns =
      .ok (some ((if l.ignoreCase then isMatch l.escape? (Text.toLower s) (Text.toLower p)
        else isMatch l.escape? s p) != l.negate)) := by
  rw [eval_like, htext, hpattern]
  rfl

lemma eval_like_described (columns : Bindings) {text pattern : Expr} {s p : String}
    (htext : text.eval columns = .ok (.string s))
    (hpattern : pattern.eval columns = .ok (.string p)) (negate : Bool) (escape? : Option Char) :
    (like ⟨text, pattern, negate, false, escape?⟩).eval columns = .ok (some !negate) ↔
      Describes escape? p.toList s.toList := by
  rw [eval_like_texts columns htext hpattern, ← isMatch_iff]
  cases negate <;> simp

/-- **`LIKE` accepts exactly the language of its pattern.** On two texts it is true if the pattern
describes the value and false otherwise, and `NOT LIKE` the other way round. The pattern for a text,
in which the escape character goes before the wildcards and before itself, describes that text
only. -/
theorem eval_like_iff (columns : Bindings) {text pattern : Expr} {s p : String}
    (htext : text.eval columns = .ok (.string s))
    (hpattern : pattern.eval columns = .ok (.string p)) (negate : Bool) (escape? : Option Char) :
    let truth := (like ⟨text, pattern, negate, false, escape?⟩).eval columns
    (truth = .ok (some !negate) ↔ Describes escape? p.toList s.toList) ∧
      (truth = .ok (some negate) ↔ ¬Describes escape? p.toList s.toList) ∧
      ∀ (e : Char) (t : String), escape? = some e → p = escaped e t →
        (truth = .ok (some !negate) ↔ s = t) := by
  have htrue := eval_like_described columns htext hpattern negate escape?
  refine ⟨htrue, ?_, ?_⟩
  · -- a match of two texts has a truth value, one or the other
    rw [← htrue, eval_like_texts columns htext hpattern]
    cases negate <;> simp
  · rintro e t rfl rfl
    rw [htrue, describes_escaped, String.toList_inj]

/-- With `%` as the escape character, a pattern for `10%_` that no other text matches, and one in
which the character after `%` is still any character. -/
theorem eval_like_iff_percent :
    (like ⟨.literal (.string "10%_"), .literal (.string "10%%%_"), false, false, some '%'⟩).eval
        Bindings.none_ = .ok (some true) ∧
      ¬Describes (some '%') "10%%%_".toList "10%x".toList ∧
      Describes (some '%') "10%%_".toList "10%x".toList := by
  have hlike (s p : String) :=
    @eval_like_iff Bindings.none_ (.literal (.string s)) (.literal (.string p)) s p rfl rfl false
      (some '%')
  exact ⟨((hlike _ _).2.2 '%' "10%_" rfl rfl).mpr rfl, (hlike _ _).2.1.mp rfl, (hlike _ _).1.mp rfl⟩

end Condition

end Polysql

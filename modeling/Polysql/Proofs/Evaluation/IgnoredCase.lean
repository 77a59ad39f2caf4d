import Mathlib.Data.Set.Basic
import Polysql.Proofs.Evaluation.Like
import Polysql.Proofs.Text.Case
/-!
Matches that ignore case, beside those that do not. Both texts are put in small letters as a whole,
the pattern with its escape characters, before it is split up in tokens. So a match is still true if
case is ignored as long as small letters leave the pattern what it is (`Pattern.Neutral`): a pattern
that spells tokens spells them in small letters (`Pattern.Spells.small`), and a token still covers
its piece (`Pattern.Covers.small`). Over characters of which one is not neutral some match is lost
(`Condition.permissive_iff_neutral`).
-/

namespace Polysql

open Text

namespace Pattern

/-- What a token stands for when its character is in small letters. -/
def Token.small : Token → Token
  | .anyText => .anyText
  | .anyChar => .anyChar
  | .char c => .char (Text.small c)

/-- Small letters leave the role of the character in a pattern alone: it gives one character, and
the escape character exactly if it is the escape character. -/
def Neutral (escape? : Option Char) (c : Char) : Prop :=
  FoldsAlone c ∧ ∀ e ∈ escape?, Text.small c = e ↔ c = e

instance (escape? : Option Char) (c : Char) : Decidable (Neutral escape? c) :=
  match escape? with
  | none => decidable_of_iff (FoldsAlone c) (by simp [Neutral])
  | some e => decidable_of_iff (FoldsAlone c ∧ (Text.small c = e ↔ c = e)) (by simp [Neutral])

section

variable {escape? : Option Char}

/-! ### Patterns in small letters -/

lemma Token.ofChar_small (c : Char) : Token.ofChar (Text.small c) = (Token.ofChar c).small := by
  simp only [Token.ofChar, small_eq_wildcard_iff (.inl rfl), small_eq_wildcard_iff (.inr rfl)]
  split_ifs <;> rfl

/-- A pattern of neutral characters spells its tokens in small letters. -/
lemma Spells.small {ps : List Char} {ts : List Token} (h : Spells escape? ps ts)
    (hneutral : ∀ c ∈ ps, Neutral escape? c) :
    Spells escape? (ps.map Text.small) (ts.map Token.small) := by
  induction h with
  | nil => exact .nil
  | @escaped e c ps ts he _ ih =>
    obtain ⟨hne, hncps⟩ := List.forall_mem_cons.mp hneutral
    obtain ⟨hnc, hnps⟩ := List.forall_mem_cons.mp hncps
    rw [List.map_cons, List.map_cons, (hne.2 e he).mpr rfl]
    exact .escaped he (ih hnps)
  | @trailing e he =>
    have hne := hneutral e List.mem_cons_self
    rw [List.map_singleton, List.map_singleton, Token.small, (hne.2 e he).mpr rfl]
    exact .trailing he
  | @plain c ps ts hc _ ih =>
    obtain ⟨hnc, hnps⟩ := List.forall_mem_cons.mp hneutral
    rw [List.map_cons, List.map_cons, ← Token.ofChar_small]
    exact .plain (fun he => hc (he.trans (congrArg some ((hnc.2 _ he).mp rfl).symm))) (ih hnps)

/-- The characters a pattern asks for are among its own. -/
lemma Spells.mem_of_char {ps : List Char} {ts : List Token} (h : Spells escape? ps ts) {c : Char}
    (hc : Token.char c ∈ ts) : c ∈ ps := by
  -- along the pattern, where only a wildcard is no character of its own
  induction h with
  | nil => cases hc
  | escaped _ _ ih =>
    obtain hc | hc := List.mem_cons.mp hc
    · cases hc
      simp
    · exact List.mem_cons_of_mem _ (List.mem_cons_of_mem _ (ih hc))
  | trailing =>
    cases List.mem_singleton.mp hc
    exact List.mem_cons_self
  | @plain d _ _ _ _ ih =>
    obtain hc | hc := List.mem_cons.mp hc
    · rw [Token.ofChar] at hc
      split_ifs at hc
      cases hc
      exact List.mem_cons_self
    · exact List.mem_cons_of_mem _ (ih hc)

/-! ### Pieces in small letters -/

lemma Token.Covers.small {t : Token} {piece ds : List Char} (h : t.Covers piece)
    (hds : List.Forall₂ IsSmallOf ds piece) (ht : t ≠ .char 'Σ') : t.small.Covers ds := by
  cases t with
  | anyText => trivial
  | anyChar => exact hds.length_eq.trans h
  | char c =>
    obtain rfl : piece = [c] := h
    obtain _ | ⟨hd, ⟨⟩⟩ := hds
    have hc : c ≠ 'Σ' := fun hc => ht (congrArg Token.char hc)
    exact congrArg ([·]) (hd.eq_small hc)

/-- A text in small letters has small forms of its pieces. Only the small form of `Σ` may not be the
one that the token asks for. -/
lemma Covers.small {ts : List Token} {cs ds : List Char} (h : Covers ts cs)
    (hds : List.Forall₂ IsSmallOf ds cs) (hts : ∀ t ∈ ts, t ≠ .char 'Σ') :
    Covers (ts.map Token.small) ds := by
  induction ts generalizing cs ds with
  | nil =>
    rw [covers_nil] at h
    subst h
    exact covers_nil.mpr (List.forall₂_nil_right_iff.mp hds)
  | cons t ts ih =>
    obtain ⟨piece, rest, rfl, ht, hrest⟩ := covers_cons.mp h
    obtain ⟨hsigma, hts⟩ := List.forall_mem_cons.mp hts
    refine covers_cons.mpr ⟨ds.take piece.length, ds.drop piece.length, List.take_append_drop _ _,
      ht.small (List.forall₂_take_append ds piece rest hds) hsigma,
      ih hrest (List.forall₂_drop_append ds piece rest hds) hts⟩

/-- What a pattern of neutral characters describes, it describes in small letters. -/
theorem Describes.small {ps cs : List Char} (h : Describes escape? ps cs)
    (hps : ∀ c ∈ ps, Neutral escape? c) (hcs : ∀ c ∈ cs, c ≠ 'İ') :
    Describes escape? (lowerChars [] ps) (lowerChars [] cs) := by
  obtain ⟨ts, hspells, hcovers⟩ := h
  rw [lowerChars_eq_map [] fun c hc => (hps c hc).1]
  refine ⟨ts.map Token.small, hspells.small hps, hcovers.small (forall₂_lowerChars [] hcs) ?_⟩
  rintro _ ht rfl
  exact (hps _ (hspells.mem_of_char ht)).1.1 rfl

/-! ### Patterns that change in small letters -/

/-- What patterns over `P` describe over `V` they still describe in small letters. -/
def Stable (escape? : Option Char) (V P : Set Char) : Prop :=
  ∀ ps cs : List Char, (∀ c ∈ ps, c ∈ P) → (∀ c ∈ cs, c ∈ V) → Describes escape? ps cs →
    Describes escape? (lowerChars [] ps) (lowerChars [] cs)

lemma Token.ofChar_eq_char {c : Char} (h : ¬(c = '%' ∨ c = '_')) : Token.ofChar c = .char c := by
  rw [Token.ofChar, if_neg fun hpercent => h (.inl hpercent),
    if_neg fun hunderscore => h (.inr hunderscore)]

lemma tokens_singleton {c : Char} (h : ¬(c = '%' ∨ c = '_')) : tokens escape? [c] = [.char c] := by
  by_cases he : escape? = some c
  · exact tokens_trailing he
  · rw [tokens_plain he, Token.ofChar_eq_char h]
    rfl

lemma describes_pair {c : Char} (h : ¬(c = '%' ∨ c = '_')) (he : escape? ≠ some c)
    {cs : List Char} : Describes escape? [c, c] cs ↔ cs = [c, c] := by
  rw [describes_iff, tokens_plain he, Token.ofChar_eq_char h, tokens_singleton h]
  exact @covers_map_char [c, c] cs

lemma describes_escape_pair {e : Char} {cs : List Char} :
    Describes (some e) [e, e] cs ↔ cs = [e] := by
  rw [describes_iff, tokens_escaped rfl]
  exact @covers_map_char [e] cs

variable {V P : Set Char}

/-- `_` describes `İ`, but not the two characters of its small form. -/
lemma Stable.dotted_not_mem (h : Stable escape? V P) (hP : '_' ∈ P) (he : escape? ≠ some '_') :
    'İ' ∉ V := by
  intro hV
  have hplain : tokens escape? ['_'] = [.anyChar] := tokens_plain he []
  have hsmall := h ['_'] ['İ'] (by simpa using hP) (by simpa using hV)
  rw [show lowerChars [] ['_'] = ['_'] from rfl, describes_iff, describes_iff, hplain,
    ← accepts_iff, ← accepts_iff] at hsmall
  exact absurd (hsmall rfl) (by decide +kernel)

/-- `_Σ` describes `ΣΣ`, but `_σ` not `σς`. -/
lemma Stable.sigma_not_mem (h : Stable escape? V P) (hP : '_' ∈ P) (he : escape? ≠ some '_')
    (hPV : P ⊆ V) : 'Σ' ∉ P := by
  intro hsigma
  have hplain (c : Char) (hc : ¬(c = '%' ∨ c = '_')) :
      tokens escape? ['_', c] = [.anyChar, .char c] := by
    rw [tokens_plain he, tokens_singleton hc]
    rfl
  have hsmall := h ['_', 'Σ'] ['Σ', 'Σ'] (by simp [hP, hsigma]) (by simpa using hPV hsigma)
  rw [show lowerChars [] ['_', 'Σ'] = ['_', 'σ'] by decide +kernel, describes_iff, describes_iff,
    hplain 'Σ' (by decide), hplain 'σ' (by decide), ← accepts_iff, ← accepts_iff] at hsmall
  exact absurd (hsmall rfl) (by decide +kernel)

/-- A character that small letters turn into the escape character, written twice, describes itself
written twice. In small letters it describes the escape character written once. -/
lemma Stable.eq_of_small_eq (h : Stable escape? V P) (hPV : P ⊆ V) {c : Char} (hc : c ∈ P)
    (hfold : FoldsAlone c) (he : escape? = some (Text.small c)) : c = Text.small c := by
  by_contra hne
  have hwild : ¬(c = '%' ∨ c = '_') := fun hwild => hne ((small_eq_wildcard_iff hwild).mpr rfl).symm
  have hplain : escape? ≠ some c := fun hc => hne (Option.some.inj (hc.symm.trans he))
  have hsmall := h [c, c] [c, c] (by simpa using hc) (by simpa using hPV hc)
    ((describes_pair hwild hplain).mpr rfl)
  rw [lowerChars_eq_map [] (by simpa using hfold), he] at hsmall
  exact absurd (describes_escape_pair.mp hsmall) (by simp)

/-- The escape character, written twice, describes itself. Small letters that turn it into another
character describe that character written twice. -/
lemma Stable.small_eq (h : Stable escape? V P) (hPV : P ⊆ V) {e : Char} (he : e ∈ P)
    (hfold : FoldsAlone e) (hescape : escape? = some e) : Text.small e = e := by
  by_contra hne
  subst hescape
  have hwild : ¬(Text.small e = '%' ∨ Text.small e = '_') := fun hwild =>
    hne ((small_eq_wildcard_iff hwild).mp rfl).symm
  have hsmall := h [e, e] [e] (by simpa using he) (by simpa using hPV he)
    (describes_escape_pair.mpr rfl)
  rw [lowerChars_eq_map [] (by simpa using hfold), lowerChars_eq_map [] (by simpa using hfold)]
    at hsmall
  exact absurd ((describes_pair hwild fun h => hne (Option.some.inj h).symm).mp hsmall) (by simp)

/-- Small letters leave everything alone only over neutral characters. -/
lemma Stable.neutral (h : Stable escape? V P) (hP : '_' ∈ P) (he : escape? ≠ some '_')
    (hPV : P ⊆ V) {c : Char} (hc : c ∈ P) : Neutral escape? c := by
  have hfold : FoldsAlone c :=
    ⟨fun hsigma => h.sigma_not_mem hP he hPV (hsigma ▸ hc),
      fun hdotted => h.dotted_not_mem hP he (hdotted ▸ hPV hc)⟩
  refine ⟨hfold, fun e hescape => ⟨?_, ?_⟩⟩
  · rintro rfl
    exact h.eq_of_small_eq hPV hc hfold hescape
  · rintro rfl
    exact h.small_eq hPV hc hfold hescape

end

end Pattern

/-! ### `LIKE` and `ILIKE` -/

open Pattern

namespace Condition

/-- A match of a value over `V` with a pattern over `P` is still true if case is ignored, and so is
its detour, the match of both in small letters. -/
def Permissive (escape? : Option Char) (V P : Set Char) : Prop :=
  ∀ (columns : Bindings) (text pattern : Expr) (s p : String),
    text.eval columns = .ok (.string s) → pattern.eval columns = .ok (.string p) →
    (∀ c ∈ s.toList, c ∈ V) → (∀ c ∈ p.toList, c ∈ P) →
    (like ⟨text, pattern, false, false, escape?⟩).eval columns = .ok (some true) →
    let ilike : Like := ⟨text, pattern, false, true, escape?⟩
    (like ilike).eval columns = .ok (some true) ∧
      (like ilike.expandIgnoreCase).eval columns = .ok (some true)

variable {escape? : Option Char} {V P : Set Char}

lemma isTextual_of_eval {columns : Bindings} {e : Expr} {s : String}
    (h : e.eval columns = .ok (.string s)) : e.IsTextual columns :=
  fun _ hv => .inr ⟨s, Except.ok.inj (hv.symm.trans h)⟩

/-- A match of two texts that ignores case is that of both in small letters, and so is its
detour. -/
lemma eval_ilike (columns : Bindings) {text pattern : Expr} {s p : String}
    (htext : text.eval columns = .ok (.string s))
    (hpattern : pattern.eval columns = .ok (.string p)) (escape? : Option Char) :
    let ilike : Like := ⟨text, pattern, false, true, escape?⟩
    (like ilike).eval columns = .ok (some (isMatch escape? (toLower s) (toLower p))) ∧
      (like ilike.expandIgnoreCase).eval columns =
        .ok (some (isMatch escape? (toLower s) (toLower p))) := by
  have hilike : (like ⟨text, pattern, false, true, escape?⟩).eval columns =
      .ok (some (isMatch escape? (toLower s) (toLower p))) := by
    rw [eval_like_texts columns htext hpattern]
    simp
  exact ⟨hilike, (eval_expandIgnoreCase columns rfl (isTextual_of_eval htext)
    (isTextual_of_eval hpattern)).trans hilike⟩

lemma isMatch_toLower {s p : String} : isMatch escape? (toLower s) (toLower p) = true ↔
    Describes escape? (lowerChars [] p.toList) (lowerChars [] s.toList) := by
  simp [isMatch_iff, toLower]

lemma permissive_iff_stable : Permissive escape? V P ↔ Stable escape? V P := by
  constructor
  · intro h ps cs hps hcs hdescribes
    have hlike : (like ⟨.literal (.string (.ofList cs)), .literal (.string (.ofList ps)), false,
        false, escape?⟩).eval Bindings.none_ = .ok (some true) :=
      (eval_like_described Bindings.none_ rfl rfl false escape?).mpr (by simpa using hdescribes)
    have hilike := (h Bindings.none_ _ _ _ _ rfl rfl (by simpa using hcs) (by simpa using hps)
      hlike).1
    rw [(eval_ilike Bindings.none_ rfl rfl escape?).1] at hilike
    simpa using isMatch_toLower.mp (Option.some.inj (Except.ok.inj hilike))
  · intro h columns text pattern s p htext hpattern hs hp hlike
    have hdescribes := (eval_like_described columns htext hpattern false escape?).mp hlike
    have hilike := eval_ilike columns htext hpattern escape?
    rwa [isMatch_toLower.mpr (h _ _ hp hs hdescribes)] at hilike

/-- **Ignoring case keeps the matches of neutral characters.** If the value has no `İ` and the
characters of the pattern are neutral, what is true as a match is true as a match that ignores case
and as the detour of that. Over sets of characters this is exact: where values may hold what
patterns may, and `_` is among it, some match is lost if a character of patterns is not neutral or
`İ` may occur in values. -/
theorem permissive_iff_neutral (escape? : Option Char) (V P : Set Char) :
    ('İ' ∉ V → (∀ c ∈ P, Neutral escape? c) → Permissive escape? V P) ∧
      ('_' ∈ P → escape? ≠ some '_' → P ⊆ V → Permissive escape? V P →
        'İ' ∉ V ∧ ∀ c ∈ P, Neutral escape? c) := by
  rw [permissive_iff_stable]
  constructor
  · intro hV hP ps cs hps hcs hdescribes
    exact hdescribes.small (fun c hc => hP c (hps c hc)) fun c hc hdotted => hV (hdotted ▸ hcs c hc)
  · intro hP he hPV h
    exact ⟨h.dotted_not_mem hP he, fun c hc => h.neutral hP he hPV hc⟩

/-- A pattern with wildcards and escape characters among capitals, and an escape character that has
a small form. -/
theorem permissive_iff_neutral_escape :
    Permissive (some '!') {c | c ≠ 'İ'} {c | c ∈ "GRÖSSE_%: 50!%".toList} ∧
      ¬Permissive (some 'E') Set.univ {c | c ∈ "_E".toList} := by
  refine ⟨(permissive_iff_neutral (some '!') _ _).1 (by simp) ?_, fun h => ?_⟩
  · have hneutral : "GRÖSSE_%: 50!%".toList.all (fun c => Neutral (some '!') c) = true := by
      decide +kernel
    exact fun c hc => of_decide_eq_true (List.all_eq_true.mp hneutral c hc)
  · have hneutral := ((permissive_iff_neutral (some 'E') _ _).2 (by decide) (by decide)
      (Set.subset_univ _) h).2 'E' (by decide)
    exact absurd hneutral (by decide +kernel)

/-- Three matches that are lost when case is ignored: of a text with an escape character that has a
small form, of two sigmas at the end of a word, and of a letter with a small form of two
characters. -/
theorem permissive_lost :
    let l (s p : String) (ignoreCase : Bool) (escape? : Option Char) : Like :=
      ⟨.literal (.string s), .literal (.string p), false, ignoreCase, escape?⟩
    let truth (l : Like) := (like l).eval Bindings.none_
    (truth (l "%" "E%" false (some 'E')) = .ok (some true) ∧
        truth (l "%" "E%" true (some 'E')) = .ok (some false) ∧
        truth (l "%" "E%" true (some 'E')).expandIgnoreCase = .ok (some false)) ∧
      (truth (l "ΣΣ" "_Σ" false none) = .ok (some true) ∧
        truth (l "ΣΣ" "_Σ" true none) = .ok (some false) ∧
        truth (l "ΣΣ" "_Σ" true none).expandIgnoreCase = .ok (some false)) ∧
      truth (l "İ" "_" false none) = .ok (some true) ∧
        truth (l "İ" "_" true none) = .ok (some false) ∧
        truth (l "İ" "_" true none).expandIgnoreCase = .ok (some false) := by
  have hlost (s p : String) (escape? : Option Char)
      (h : isMatch escape? (toLower s) (toLower p) = false) :=
    h ▸ @eval_ilike Bindings.none_ (.literal (.string s)) (.literal (.string p)) s p rfl rfl escape?
  exact ⟨⟨rfl, hlost "%" "E%" (some 'E') (by decide +kernel)⟩,
    ⟨rfl, hlost "ΣΣ" "_Σ" none (by decide +kernel)⟩, rfl, hlost "İ" "_" none (by decide +kernel)⟩

end Condition

end Polysql

import Mathlib.Tactic.Lemma
import Polysql.Draft.Name
/-!
Drafts as sequences of tokens: the words and signs of their fixed texts, the parts of their names,
and their values, whether these are bound or written out. The tokens of drafts one after the other
are those of the drafts (`Draft.tokens_append`), since each piece is read by itself. When the tokens
are those of the written text as well, is another matter (`Draft.tokens_joined_iff`).
-/

namespace Polysql

/-- What a reader of a text sees at once. -/
inductive Token where
  | word (s : String)
  | sign (s : String)
  | opening
  | closing
  | comma
  /-- A value that is bound or written out. -/
  | value (c : Constant)
  /-- A part of a name. -/
  | part (p : NamePart)
  /-- A text inside of another. -/
  | embedded

/-! ### Fixed text -/

/-- A character of a word or of a number. -/
def isWordChar (c : Char) : Bool :=
  c.isAlphanum || c == '_'

/-- The characters before the next token, in reverse, are a word or a sign. -/
def pendingToken (cs : List Char) : List Token :=
  match cs with
  | [] => []
  | c :: _ =>
    let text := String.ofList cs.reverse
    [if isWordChar c then .word text else .sign text]

/-- The tokens of fixed text after some characters that make up a token with those to come. -/
def tokensAfter (pending : List Char) : List Char → List Token
  | [] => pendingToken pending
  | c :: cs =>
    if c = ' ' then pendingToken pending ++ tokensAfter [] cs
    else if c = '(' then pendingToken pending ++ .opening :: tokensAfter [] cs
    else if c = ')' then pendingToken pending ++ .closing :: tokensAfter [] cs
    else if c = ',' then pendingToken pending ++ .comma :: tokensAfter [] cs
    else match pending with
      | [] => tokensAfter [c] cs
      | p :: _ =>
        if isWordChar p == isWordChar c then tokensAfter (c :: pending) cs
        else pendingToken pending ++ tokensAfter [c] cs

/-- The tokens of fixed text. -/
def tokensOfText (s : String) : List Token :=
  tokensAfter [] s.toList

/-- Characters that go on with a word. -/
lemma tokensAfter_word {pending cs : List Char} (hpending : ∀ c ∈ pending, isWordChar c = true)
    (hcs : ∀ c ∈ cs, isWordChar c = true) :
    tokensAfter pending cs = pendingToken (cs.reverse ++ pending) := by
  -- for any pending characters, as they grow while the word is read
  induction cs generalizing pending with
  | nil => cases pending <;> rfl
  | cons c cs ih =>
    obtain ⟨hc, hcs⟩ := List.forall_mem_cons.mp hcs
    have hdelimiter (d : Char) (hd : isWordChar d = false) : c ≠ d := by
      rintro rfl
      exact Bool.false_ne_true (hd.symm.trans hc)
    have hnext := ih (List.forall_mem_cons.mpr ⟨hc, hpending⟩) hcs
    rw [tokensAfter.eq_def]
    dsimp only
    rw [if_neg (hdelimiter ' ' (by decide)), if_neg (hdelimiter '(' (by decide)),
      if_neg (hdelimiter ')' (by decide)), if_neg (hdelimiter ',' (by decide)), List.reverse_cons,
      List.append_assoc]
    cases pending with
    | nil => exact hnext
    | cons p pending =>
      have hp : (isWordChar p == isWordChar c) = true := by
        rw [hpending p List.mem_cons_self, hc]
        rfl
      dsimp only
      rw [if_pos hp]
      exact hnext

/-- A text of word characters is a single word. -/
lemma tokensOfText_word {s : String} (hs : s.toList ≠ [])
    (h : ∀ c ∈ s.toList, isWordChar c = true) : tokensOfText s = [.word s] := by
  rw [tokensOfText, tokensAfter_word (List.forall_mem_nil _) h, List.append_nil]
  cases hreverse : s.toList.reverse with
  | nil => exact absurd (List.reverse_eq_nil_iff.mp hreverse) hs
  | cons c cs =>
    have hc : isWordChar c = true :=
      h c (List.mem_reverse.mp (hreverse ▸ List.mem_cons_self))
    rw [pendingToken, if_pos hc, ← hreverse, List.reverse_reverse, String.ofList_toList]

/-! ### Drafts -/

/-- The tokens of a piece. The start of a clause is white space. -/
def Piece.tokens : Piece → List Token
  | .text s => tokensOfText s
  | .name p => [.part p]
  | .literal c _ | .parameter c => [.value c]
  | .clause _ => []
  | .terminator => [.sign ";"]
  | .embedded _ _ => [.embedded]

namespace Draft

/-- The tokens of a draft. -/
def tokens (d : Draft) : List Token :=
  d.pieces.flatMap Piece.tokens

/-- Two drafts fit together if neither fails. -/
lemma error?_append {a b : Draft} :
    (a ++ b).error? = none ↔ a.error? = none ∧ b.error? = none := by
  obtain ⟨ps, _ | e⟩ := a
  · change b.error? = none ↔ _
    simp
  · change some e = none ↔ _
    simp

lemma tokens_append {a b : Draft} (ha : a.error? = none) :
    (a ++ b).tokens = a.tokens ++ b.tokens := by
  obtain ⟨ps, _ | e⟩ := a
  · exact List.flatMap_append
  · cases ha

@[simp] lemma error?_text (s : String) : (text s).error? = none := rfl

@[simp] lemma tokens_text (s : String) : (text s).tokens = tokensOfText s :=
  List.flatMap_singleton _ _

lemma tokens_text_append (s : String) (d : Draft) :
    (text s ++ d).tokens = tokensOfText s ++ d.tokens := by
  rw [tokens_append (error?_text s), tokens_text]

lemma error?_separated {separator : String} {ds : List Draft} :
    (separated separator ds).error? = none ↔ ∀ d ∈ ds, d.error? = none := by
  induction ds with
  | nil => simp [separated, empty]
  | cons d ds ih =>
    cases ds with
    | nil => simp [separated]
    | cons d' ds =>
      rw [separated, error?_append, error?_append, ih, List.forall_mem_cons]
      · simp
      · simp

/-- Drafts one after the other do not fail if none of them does. -/
lemma error?_concat {ds : List Draft} :
    (concat ds).error? = none ↔ ∀ d ∈ ds, d.error? = none := by
  induction ds with
  | nil => simp [concat, empty]
  | cons d ds ih =>
    change (d ++ concat ds).error? = none ↔ _
    rw [error?_append, ih, List.forall_mem_cons]

end Draft

end Polysql

import Mathlib.Data.List.Forall2
import Polysql.Text.Ascii
import Polysql.Text.Case
/-!
Small letters, one character at a time. Only `İ` has a small form of two characters, and only `Σ`
has one that depends on its neighbours; in every other text each character gives its own small form
(`lowerChars_eq_map`). Outside ASCII only the sign of Kelvin has a small form in ASCII, so that
small letters of all kinds and those of ASCII give the same words without a `k` (`toLower_eq_iff`).
No small form is a wildcard of a pattern unless the character is that wildcard
(`small_eq_wildcard_iff`).
-/

namespace Polysql.Text

/-- The small form of a character by itself, which for `İ` is only the first half. -/
def small (c : Char) : Char :=
  (lowerChar c).headD c

/-- A small form of the character in some text. -/
def IsSmallOf (d c : Char) : Prop :=
  d = small c ∨ c = 'Σ' ∧ d = 'ς'

/-- The small form of the character is one character, the same whatever stands around it. -/
def FoldsAlone (c : Char) : Prop :=
  c ≠ 'Σ' ∧ c ≠ 'İ'

instance (c : Char) : Decidable (FoldsAlone c) :=
  inferInstanceAs (Decidable (_ ∧ _))

lemma IsSmallOf.eq_small {d c : Char} (h : IsSmallOf d c) (hc : c ≠ 'Σ') : d = small c :=
  h.resolve_right fun hsigma => hc hsigma.1

lemma otherCase_lower {c : Char} (h : c ≠ 'İ') :
    otherCase lowerRuns lowerSequences c =
      [Char.ofNat ((lowerRuns.findSome? (·.image? c.toNat)).getD c.toNat)] := by
  have hc : c.toNat ≠ 0x130 := fun hc => h (Char.toNat_inj.mp hc)
  have hlookup : lowerSequences.lookup c.toNat = none := by
    rw [List.lookup_eq_none_iff, lowerSequences, List.forall_mem_singleton]
    exact bne_iff_ne.mpr hc
  rw [otherCase, hlookup]

lemma lowerChar_eq_small {c : Char} (h : c ≠ 'İ') : lowerChar c = [small c] := by
  rw [small, lowerChar]
  split_ifs with hc
  · rfl
  · rw [otherCase_lower h]
    rfl

lemma lowerChars_dotted (before cs : List Char) :
    lowerChars before ('İ' :: cs) = 'i' :: '\u0307' :: lowerChars ('İ' :: before) cs := by
  have hform : lowerChar 'İ' = ['i', '\u0307'] := by
    decide +kernel
  rw [lowerChars, if_neg (by decide), hform]
  rfl

lemma small_sigma : small 'Σ' = 'σ' := by
  decide +kernel

/-- Every character but `İ` gives one character. -/
lemma lowerChars_cons (before cs : List Char) {c : Char} (h : c ≠ 'İ') :
    ∃ d, IsSmallOf d c ∧ lowerChars before (c :: cs) = d :: lowerChars (c :: before) cs := by
  rw [lowerChars]
  by_cases hsigma : c = 'Σ'
  · rw [if_pos hsigma]
    split_ifs
    · exact ⟨'ς', .inr ⟨hsigma, rfl⟩, rfl⟩
    · exact ⟨'σ', .inl (hsigma ▸ small_sigma.symm), rfl⟩
  · rw [if_neg hsigma, lowerChar_eq_small h]
    exact ⟨small c, .inl rfl, rfl⟩

/-- Without `İ`, a text in small letters has a small form in the place of each character. -/
lemma forall₂_lowerChars (before : List Char) {cs : List Char} (h : ∀ c ∈ cs, c ≠ 'İ') :
    List.Forall₂ IsSmallOf (lowerChars before cs) cs := by
  induction cs generalizing before with
  | nil => exact .nil
  | cons c cs ih =>
    obtain ⟨hc, hcs⟩ := List.forall_mem_cons.mp h
    obtain ⟨d, hd, hcons⟩ := lowerChars_cons before cs hc
    exact hcons ▸ .cons hd (ih _ hcs)

/-- Without `İ` and `Σ`, a text is put in small letters character by character. -/
lemma lowerChars_eq_map (before : List Char) {cs : List Char} (h : ∀ c ∈ cs, FoldsAlone c) :
    lowerChars before cs = cs.map small := by
  induction cs generalizing before with
  | nil => rfl
  | cons c cs ih =>
    obtain ⟨hc, hcs⟩ := List.forall_mem_cons.mp h
    obtain ⟨d, hd, hcons⟩ := lowerChars_cons before cs hc.2
    rw [hcons, ih _ hcs, hd.eq_small hc.1, List.map_cons]

/-! ### ASCII -/

/-- A character of ASCII that is the small form of characters of ASCII only. The letter `k` is that
of the sign of Kelvin, too. -/
def IsAsciiForm (w : Char) : Prop :=
  w.toNat ≠ 0 ∧ w.toNat < 128 ∧ w ≠ 'k'

instance (w : Char) : Decidable (IsAsciiForm w) :=
  inferInstanceAs (Decidable (_ ∧ _))

/-- The runs of letters lead past ASCII, but for the sign of Kelvin. -/
lemma image_lowerRuns : ∀ r ∈ lowerRuns,
    128 ≤ r.first + r.shift ∨ r.first = r.last ∧ r.first + r.shift = 'k'.toNat := by
  decide +kernel

lemma ofNat_ne_of_ne {n : Nat} {w : Char} (hw : w.toNat ≠ 0) (h : w.toNat ≠ n) :
    Char.ofNat n ≠ w := by
  rintro rfl
  by_cases hn : n.isValidChar
  · rw [Char.ofNat, dif_pos hn] at h
    exact h rfl
  · rw [Char.ofNat, dif_neg hn] at hw
    exact hw rfl

/-- Outside ASCII no small form is such a character. -/
lemma otherCase_lower_ne {c w : Char} (hc : ¬c.toNat < 128) (hw : IsAsciiForm w) :
    Char.ofNat ((lowerRuns.findSome? (·.image? c.toNat)).getD c.toNat) ≠ w := by
  obtain ⟨hzero, hascii, hk⟩ := hw
  have hk' : w.toNat ≠ 'k'.toNat := fun h => hk (Char.toNat_inj.mp h)
  refine ofNat_ne_of_ne hzero ?_
  cases himage : lowerRuns.findSome? (·.image? c.toNat) with
  | none =>
    rw [Option.getD_none]
    omega
  | some n =>
    obtain ⟨r, hr, hn⟩ := List.exists_of_findSome?_eq_some himage
    rw [CaseRun.image?] at hn
    split_ifs at hn with hrun
    have hn' := Option.some.inj hn
    rw [Option.getD_some]
    obtain hfar | ⟨hone, hkelvin⟩ := image_lowerRuns r hr <;> omega

/-- Only capitals of ASCII have another small form by its rule. -/
lemma toLower_eq_self {c : Char} (h : c.toNat < 65 ∨ 90 < c.toNat) : c.toLower = c := by
  refine dif_neg ?_
  rintro ⟨hfirst, hlast⟩
  have hfirst' : 65 ≤ c.toNat := UInt32.le_iff_toNat_le.mp hfirst
  have hlast' : c.toNat ≤ 90 := UInt32.le_iff_toNat_le.mp hlast
  omega

/-- A character gives such a character of ASCII exactly if it does by the rule of ASCII. -/
lemma IsSmallOf.eq_iff {c d w : Char} (h : IsSmallOf d c) (hc : c ≠ 'İ') (hw : IsAsciiForm w) :
    d = w ↔ c.toLower = w := by
  -- within ASCII both are the same letter, and beyond it neither of them is `w`
  by_cases hascii : c.toNat < 128
  · have hsigma : c ≠ 'Σ' := by
      rintro rfl
      exact absurd hascii (by decide)
    rw [h.eq_small hsigma, small, lowerChar, if_pos hascii, List.headD_cons]
  · have hd : d ≠ w := by
      obtain rfl | ⟨-, rfl⟩ := h
      · rw [small, lowerChar, if_neg hascii, otherCase_lower hc, List.headD_cons]
        exact otherCase_lower_ne hascii hw
      · rintro rfl
        exact absurd hw (by decide)
    have hc' : c.toLower ≠ w := by
      rw [toLower_eq_self (by omega)]
      rintro rfl
      exact hascii hw.2.1
    exact iff_of_false hd hc'

/-- Small letters of all kinds and those of ASCII give the same words of such characters. -/
lemma lowerChars_eq_iff (before : List Char) {cs ws : List Char} (hws : ∀ w ∈ ws, IsAsciiForm w) :
    lowerChars before cs = ws ↔ cs.map Char.toLower = ws := by
  induction cs generalizing before ws with
  | nil => rfl
  | cons c cs ih =>
    by_cases hdotted : c = 'İ'
    · -- the second half of its small form is no character of ASCII, nor is the letter itself
      subst hdotted
      have hforms : ∀ d, ¬IsAsciiForm d → d ∉ ws := fun d hd hmem => hd (hws d hmem)
      rw [lowerChars_dotted]
      refine iff_of_false ?_ ?_
      · rintro rfl
        exact hforms '\u0307' (by decide) (by simp)
      · rintro rfl
        exact hforms 'İ' (by decide) List.mem_cons_self
    · obtain ⟨d, hd, hcons⟩ := lowerChars_cons before cs hdotted
      rw [hcons, List.map_cons]
      cases ws with
      | nil => exact iff_of_false nofun nofun
      | cons w ws =>
        obtain ⟨hw, hws⟩ := List.forall_mem_cons.mp hws
        rw [List.cons.injEq, List.cons.injEq, hd.eq_iff hdotted hw, ih _ hws]

lemma foldCase_eq (s : String) : foldCase s = String.ofList (s.toList.map Char.toLower) := by
  rw [foldCase, ← String.toList_inj, String.toList_map, String.toList_ofList]

/-- A text has such a word as its small form exactly if it is the word up to ASCII case. -/
theorem toLower_eq_iff {s word : String} (hword : ∀ w ∈ word.toList, IsAsciiForm w) :
    toLower s = word ↔ foldCase s = word := by
  rw [toLower, foldCase_eq, ← String.toList_inj, ← String.toList_inj, String.toList_ofList,
    String.toList_ofList]
  exact lowerChars_eq_iff [] hword

/-! ### The wildcards -/

lemma toLower_wildcard : ∀ n < 128,
    ((Char.ofNat n).toLower = '%' → Char.ofNat n = '%') ∧
      ((Char.ofNat n).toLower = '_' → Char.ofNat n = '_') := by
  decide

/-- No character but the wildcard itself has it as its small form. -/
lemma small_eq_wildcard_iff {c w : Char} (hw : w = '%' ∨ w = '_') : small c = w ↔ c = w := by
  constructor
  -- the small form of `İ` begins with a plain `i`
  · by_cases hdotted : c = 'İ'
    · subst hdotted
      obtain rfl | rfl := hw <;> exact fun h => absurd h (by decide +kernel)
    rw [small, lowerChar]
    split_ifs with hc
    · have hwild := toLower_wildcard c.toNat hc
      rw [Char.ofNat_toNat] at hwild
      obtain rfl | rfl := hw
      · exact hwild.1
      · exact hwild.2
    · have hform : IsAsciiForm w := by
        obtain rfl | rfl := hw <;> decide
      rw [otherCase_lower hdotted, List.headD_cons]
      exact fun h => absurd h (otherCase_lower_ne hc hform)
  · rintro rfl
    obtain rfl | rfl := hw <;> rfl

end Polysql.Text

import Mathlib.Tactic.Lemma
import Polysql.Name
/-!
Names that are put together: the qualifier and the last part of a name behind another one, and what
comparisons without regard to case see of them.
-/

namespace Polysql.Name

variable {n m m' : Name} {c : String}

/-! ### Names of one part -/

lemma ofText_of_ne (hc : c ≠ "") : ofText c = ⟨[⟨c, .byDefault, hc⟩]⟩ := by
  simp [ofText, ofTexts, ofTextsWith, NamePart.ofText?, hc]

lemma unqualified_ofText (c : String) : (ofText c).unqualified = ofText c := by
  by_cases hc : c = ""
  · subst hc
    rfl
  · rw [ofText_of_ne hc]
    rfl

/-! ### Names behind others -/

lemma append_right_inj : n ++ m = n ++ m' ↔ m = m' := by
  constructor
  · intro h
    have hparts := congrArg parts h
    rw [parts_append, parts_append] at hparts
    exact congrArg mk (List.append_cancel_left hparts)
  · rintro rfl
    rfl

@[simp] lemma qualifier_append_ofText (n : Name) (hc : c ≠ "") :
    (n ++ ofText c).qualifier = n := by
  rw [ofText_of_ne hc, qualifier, parts_append, List.dropLast_concat]

@[simp] lemma last?_append_ofText (n : Name) (hc : c ≠ "") : (n ++ ofText c).last? = some c := by
  rw [ofText_of_ne hc, last?, parts_append, List.getLast?_concat]
  rfl

lemma isQualified_append_ofText (hn : n.isEmpty = false) (hc : c ≠ "") :
    (n ++ ofText c).isQualified = true := by
  obtain ⟨parts⟩ := n
  cases parts with
  | nil => cases hn
  | cons p ps =>
    rw [ofText_of_ne hc]
    simp [isQualified]

/-! ### Comparisons -/

@[simp] lemma sameIgnoringCase_refl (n : Name) : n.sameIgnoringCase n = true := by
  have hzip : n.parts.zip n.parts = n.parts.map fun p => (p, p) := by
    simpa using List.zip_map' (f := id) (g := id) (l := n.parts)
  simp [sameIgnoringCase, hzip]

lemma sameUnqualified_iff : n.sameUnqualified m = true ↔
    ∃ s t, n.last? = some s ∧ m.last? = some t ∧ Text.foldCase s = Text.foldCase t := by
  rw [sameUnqualified]
  cases n.last? <;> cases m.last? <;> simp [Text.sameIgnoringCase]

/-- Names that are the same as a third one are the same. -/
lemma sameUnqualified_trans {k : Name} (hnm : n.sameUnqualified m = true)
    (hmk : m.sameUnqualified k = true) : n.sameUnqualified k = true := by
  obtain ⟨s, t, hs, ht, hst⟩ := sameUnqualified_iff.mp hnm
  obtain ⟨t', u, ht', hu, htu⟩ := sameUnqualified_iff.mp hmk
  obtain rfl : t = t' := Option.some.inj (ht.symm.trans ht')
  exact sameUnqualified_iff.mpr ⟨s, u, hs, hu, hst.trans htu⟩

/-- Only the last parts of names count. -/
lemma sameUnqualified_congr (h : m.last? = m'.last?) :
    n.sameUnqualified m = n.sameUnqualified m' := by
  rw [sameUnqualified, sameUnqualified, h]

/-! ### Parts without case -/

/-- The texts of the parts with their ASCII capitals made small. -/
def folded (n : Name) : List String :=
  n.parts.map fun p => Text.foldCase p.text

lemma length_folded (n : Name) : n.folded.length = n.parts.length :=
  List.length_map _

lemma folded_qualifier (n : Name) : n.qualifier.folded = n.folded.dropLast :=
  List.map_dropLast

lemma getLast?_folded (n : Name) : n.folded.getLast? = n.last?.map Text.foldCase := by
  rw [folded, List.getLast?_map, last?, Option.map_map]
  rfl

/-- Names that differ in ASCII case at most have the same parts without case. -/
lemma sameIgnoringCase_iff_folded : n.sameIgnoringCase m = true ↔ n.folded = m.folded := by
  obtain ⟨ps⟩ := n
  obtain ⟨qs⟩ := m
  rw [sameIgnoringCase, folded, folded]
  induction ps generalizing qs with
  | nil => cases qs <;> simp
  | cons p ps ih =>
    cases qs with
    | nil => simp
    | cons q qs =>
      have ih := ih qs
      simp only [List.length_cons, List.zip_cons_cons, List.all_cons, List.map_cons,
        List.cons.injEq, ← ih, Bool.and_eq_true, beq_iff_eq, Nat.add_right_cancel_iff,
        Text.sameIgnoringCase]
      exact and_left_comm

lemma isQualified_of_sameIgnoringCase (h : n.sameIgnoringCase m = true) :
    n.isQualified = m.isQualified := by
  have hlength := congrArg List.length (sameIgnoringCase_iff_folded.mp h)
  rw [length_folded, length_folded] at hlength
  rw [isQualified, isQualified, hlength]

lemma qualifier_sameIgnoringCase (h : n.sameIgnoringCase m = true) :
    n.qualifier.sameIgnoringCase m.qualifier = true := by
  rw [sameIgnoringCase_iff_folded] at h ⊢
  rw [folded_qualifier, folded_qualifier, h]

lemma isEmpty_of_isQualified (h : n.isQualified = true) : n.isEmpty = false := by
  rw [isQualified, decide_eq_true_iff] at h
  rw [isEmpty, List.isEmpty_eq_false_iff]
  exact List.ne_nil_of_length_pos (by omega)

lemma last?_eq_none_iff : n.last? = none ↔ n.isEmpty = true := by
  rw [last?, Option.map_eq_none_iff, List.getLast?_eq_none_iff, isEmpty, List.isEmpty_iff]

/-- Names that differ in ASCII case at most have the same last part, if they have one. -/
lemma sameUnqualified_of_sameIgnoringCase (h : n.sameIgnoringCase m = true)
    (hm : m.isEmpty = false) : n.sameUnqualified m = true := by
  have hlast := congrArg List.getLast? (sameIgnoringCase_iff_folded.mp h)
  rw [getLast?_folded, getLast?_folded] at hlast
  obtain ⟨t, ht⟩ : ∃ t, m.last? = some t := by
    cases ht : m.last? with
    | none => simp [last?_eq_none_iff.mp ht] at hm
    | some t => exact ⟨t, rfl⟩
  rw [ht, Option.map_some, Option.map_eq_some_iff] at hlast
  obtain ⟨s, hs, hst⟩ := hlast
  exact sameUnqualified_iff.mpr ⟨s, t, hs, ht, hst⟩

end Polysql.Name

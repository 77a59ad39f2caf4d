import Polysql.Number.Reading
import Polysql.Proofs.Text.Occurrence
/-!
Integers written in digits. A number is written as a word of digits, and a negative one with a sign
before it. So nothing of it is trimmed (`trim_repr`), and it is read as the number that it is
(`integer?_repr`).
-/

namespace Polysql

/-! ### Digits -/

section

variable (n : Nat)

lemma toList_repr : (Nat.repr n).toList = Nat.toDigits 10 n := by
  rw [Nat.repr_eq_ofList_toDigits, String.toList_ofList]

lemma isDigit_of_mem_repr {c : Char} (h : c ∈ (Nat.repr n).toList) : c.isDigit = true := by
  rw [toList_repr] at h
  exact Nat.isDigit_of_mem_toDigits (by decide) (by decide) h

/-- Digits begin with no sign. -/
lemma sign_repr : Reading.sign (Nat.repr n).toList = (false, (Nat.repr n).toList) := by
  have hdigits := fun c => isDigit_of_mem_repr n (c := c)
  rw [Reading.sign.eq_def]
  split
  case h_1 heq => exact absurd (hdigits '-' (by simp [heq])) (by decide)
  case h_2 heq => exact absurd (hdigits '+' (by simp [heq])) (by decide)
  case h_3 => rfl

lemma digits?_repr : Reading.digits? (Nat.repr n).toList = some n := by
  have hne : (Nat.repr n).toList ≠ [] := by
    rw [toList_repr]
    exact Nat.toDigits_ne_nil
  have hdigits : (Nat.repr n).toList.all Char.isDigit = true :=
    List.all_eq_true.mpr fun _ => isDigit_of_mem_repr n
  have hvalue : Reading.ofDigits (Nat.repr n).toList = n := by
    rw [toList_repr]
    exact Nat.ofDigitChars_toDigits (by decide) (by decide)
  rw [Reading.digits?, hdigits, hvalue, List.isEmpty_eq_false_iff.mpr hne]
  rfl

end

/-! ### Integers -/

/-- An integer is written as its digits, and if it is negative, with a sign before them. -/
lemma toList_intRepr (k : Int) :
    (Int.repr k).toList =
      if 0 ≤ k then (Nat.repr k.toNat).toList else '-' :: (Nat.repr (-k).toNat).toList := by
  rw [Int.repr_eq_if]
  split
  · rfl
  · rw [String.toList_append]
    rfl

/-- What is written for an integer is read as this integer. -/
lemma integer?_repr (k : Int) : Reading.integer? (Int.repr k) = some k := by
  rw [Reading.integer?, toList_intRepr]
  by_cases hsign : 0 ≤ k
  · rw [if_pos hsign, sign_repr]
    simp only [digits?_repr]
    exact congrArg some (Int.toNat_of_nonneg hsign)
  · have hback : -((-k).toNat : Int) = k := by omega
    rw [if_neg hsign, Reading.sign]
    simp only [digits?_repr]
    exact congrArg some hback

/-- There are no blanks in an integer. -/
lemma trim_repr (k : Int) : Text.trim (Int.repr k) = Int.repr k := by
  have hword (n : Nat) : Text.IsWord (Nat.repr n).toList :=
    fun c hc => Text.isBlank_of_isDigit (isDigit_of_mem_repr n hc)
  refine Text.trim_eq_self ?_
  rw [toList_intRepr]
  split
  · exact hword _
  · exact List.forall_mem_cons.mpr ⟨by decide, hword _⟩

end Polysql

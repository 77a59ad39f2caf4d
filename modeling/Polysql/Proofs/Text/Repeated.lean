import Mathlib.Data.String.Basic
import Mathlib.Tactic.Lemma
import Polysql.Text.Search
/-!
Texts several times over. The copies of a text are the text read round and round
(`Text.cycled_eq_take`), and the bytes they take are so many times those of the text
(`Text.bytes_copies`, `Text.utf8ByteSize_repeated`).
-/

namespace Polysql.Text

/-- A text several times over. -/
def copies (n : Nat) (fill : List Char) : List Char :=
  (List.replicate n fill).flatten

variable {fill : List Char} {n m : Nat}

lemma copies_succ (n : Nat) (fill : List Char) :
    copies (n + 1) fill = fill ++ copies n fill := rfl

lemma length_copies (n : Nat) (fill : List Char) :
    (copies n fill).length = n * fill.length := by
  rw [copies, List.length_flatten, List.map_replicate, List.sum_replicate_nat]

/-- The characters of the copies, round and round. -/
lemma getElem?_copies (hm : m < n * fill.length) :
    (copies n fill)[m]? = fill[m % fill.length]? := by
  induction n generalizing m with
  | zero => omega
  | succ n ih =>
    rw [copies_succ]
    by_cases hfirst : m < fill.length
    · rw [List.getElem?_append_left hfirst, Nat.mod_eq_of_lt hfirst]
    · have hle : fill.length ≤ m := Nat.le_of_not_lt hfirst
      rw [Nat.succ_mul] at hm
      rw [List.getElem?_append_right hle, ih (by omega), Nat.mod_eq_sub_mod hle]

/-- What is read round and round is the beginning of enough copies. -/
lemma cycled_eq_take (hm : m ≤ n * fill.length) : cycled fill m = (copies n fill).take m := by
  induction m with
  | zero => rfl
  | succ m ih =>
    have hlast : cycled fill (m + 1) = cycled fill m ++ fill[m % fill.length]?.toList := by
      rw [cycled, List.range_succ, List.filterMap_append]
      congr 1
    rw [hlast, ih (by omega), List.take_add_one, getElem?_copies (by omega)]

lemma le_mul_length (hfill : fill ≠ []) (n : Nat) : n ≤ n * fill.length :=
  Nat.le_mul_of_pos_right n (List.length_pos_of_ne_nil hfill)

/-- Some whole copies, and the beginning of one more. -/
lemma take_copies_succ (hm : m ≤ fill.length) (n : Nat) :
    (copies (n + 1) fill).take (n * fill.length + m) = copies n fill ++ fill.take m := by
  induction n with
  | zero => rw [copies_succ, Nat.zero_mul, Nat.zero_add, List.take_append_of_le_length hm]; rfl
  | succ n ih =>
    rw [copies_succ, copies_succ, List.append_assoc, ← copies_succ, ← ih, List.take_append,
      List.take_of_length_le (by rw [Nat.succ_mul]; omega)]
    congr 2
    rw [Nat.succ_mul]
    omega

/-! ### Bytes -/

lemma bytes_append (a b : List Char) : bytes (a ++ b) = bytes a + bytes b := by
  induction a with
  | nil => rw [List.nil_append, bytes, Nat.zero_add]
  | cons c a ih => rw [List.cons_append, bytes, bytes, ih, Nat.add_assoc]

lemma bytes_copies (n : Nat) (fill : List Char) : bytes (copies n fill) = n * bytes fill := by
  induction n with
  | zero => rw [Nat.zero_mul]; rfl
  | succ n ih => rw [copies_succ, bytes_append, ih, Nat.succ_mul, Nat.add_comm]

/-- The bytes of the text that some characters make. -/
lemma utf8ByteSize_ofList (cs : List Char) : (String.ofList cs).utf8ByteSize = bytes cs := by
  rw [String.utf8ByteSize_ofList]
  induction cs with
  | nil => rfl
  | cons c cs ih =>
    rw [String.utf8Len_cons, ih, bytes, Nat.add_comm]

/-- The bytes of a filling of some length, which is read round and round. -/
lemma bytes_cycled (hfill : fill ≠ []) (m : Nat) :
    bytes (cycled fill m) =
      m / fill.length * bytes fill + bytes (fill.take (m % fill.length)) := by
  have hpos := List.length_pos_of_ne_nil hfill
  have hcycled : cycled fill m =
      copies (m / fill.length) fill ++ fill.take (m % fill.length) := by
    rw [← take_copies_succ (Nat.le_of_lt (Nat.mod_lt m hpos)), Nat.div_add_mod']
    exact cycled_eq_take (by rw [Nat.mul_comm]; exact Nat.le_of_lt (Nat.lt_mul_div_succ m hpos))
  rw [hcycled, bytes_append, bytes_copies]

lemma repeated_eq_ofList (s : String) (n : Nat) :
    repeated s n = String.ofList (copies n s.toList) := by
  rw [← String.toList_inj, String.toList_ofList, repeated]
  split
  next hempty =>
    rw [String.isEmpty_iff.mp hempty, copies]
    simp
  next =>
    rw [joined, String.toList_intercalate, List.map_replicate, copies, String.toList_empty]
    induction n with
    | zero => rfl
    | succ n ih =>
      rw [List.replicate_succ, List.flatten_cons, ← ih]
      cases n <;> simp [List.intercalate, List.replicate_succ]

lemma utf8ByteSize_repeated (s : String) (n : Nat) :
    (repeated s n).utf8ByteSize = n * s.utf8ByteSize := by
  rw [repeated_eq_ofList, utf8ByteSize_ofList, bytes_copies, ← utf8ByteSize_ofList,
    String.ofList_toList]

end Polysql.Text

import Polysql.Proofs.Evaluation.Negation
import Polysql.Proofs.Place.Surrounded
/-!
Memberships in long lists. An engine that takes lists of limited length only gets a membership in
each of the parts of a list, and a junction of these. Nothing is lost: the parts are the list again
(`flatten_chunks`), and the junction is as true as the membership in the whole list, unknown where
that is unknown, and fails with the same error (`Condition.eval_join_parts`).
-/

namespace Polysql

open Writers (chunks)

/-! ### Parts of a list -/

section

variable {size : Nat} {es part : List Expr}

/-- The first parts hold the first elements. -/
lemma flatten_chunksUpTo (size : Nat) (es : List Expr) (n : Nat) :
    ((List.range n).map fun i => (es.drop (i * size)).take size).flatten = es.take (n * size) := by
  induction n with
  | zero => simp
  | succ n ih =>
    rw [List.range_succ, List.map_append, List.flatten_append, ih, List.map_singleton,
      List.flatten_singleton, Nat.succ_mul, List.take_add]

/-- The parts of a list are the list again. -/
lemma flatten_chunks (hsize : 0 < size) (es : List Expr) : (chunks size es).flatten = es := by
  rw [chunks, flatten_chunksUpTo, List.take_of_length_le]
  have hdiv := Nat.div_add_mod (es.length + size - 1) size
  have hmod := Nat.mod_lt (es.length + size - 1) hsize
  rw [Nat.mul_comm]
  omega

lemma ne_nil_of_mem_chunks (hsize : 0 < size) (h : part ∈ chunks size es) : part ≠ [] := by
  obtain ⟨i, hi, rfl⟩ := List.mem_map.mp h
  rw [List.mem_range, Nat.lt_div_iff_mul_lt hsize] at hi
  rw [← List.length_pos_iff, List.length_take, List.length_drop]
  omega

lemma length_le_of_mem_chunks (h : part ∈ chunks size es) : part.length ≤ size := by
  obtain ⟨i, -, rfl⟩ := List.mem_map.mp h
  exact List.length_take_le size _

lemma chunks_ne_nil (hsize : 0 < size) (h : es ≠ []) : chunks size es ≠ [] := by
  intro hnil
  have hflatten := flatten_chunks hsize es
  rw [hnil] at hflatten
  exact h hflatten.symm

end

/-! ### The truth of a membership -/

/-- The connective between the memberships in the parts of a list. -/
def Connective.ofParts (negate : Bool) : Connective :=
  if negate then and else or

/-- The truth of several conditions that are joined by a connective. -/
def Connective.truth : Connective → List Truth → Truth
  | and => .all
  | or => .any

lemma Connective.eval_join (k : Connective) (columns : Bindings) (cs : List Condition) :
    (k.join cs).eval columns = (evalAll columns cs).map k.truth := by
  cases k with
  | and => exact Condition.eval_and columns cs
  | or => exact Condition.eval_or columns cs

namespace Truth

lemma any_flatten (parts : List (List Truth)) : any parts.flatten = any (parts.map any) := by
  induction parts with
  | nil => rfl
  | cons ts parts ih =>
    rw [List.flatten_cons, any_append, ih, List.map_cons, any_cons (any ts) (parts.map any)]

/-- A value is in a list if it is in one of its parts, and not in a list if it is in none of
them. A part in which NULL leaves that open decides nothing against another one. -/
lemma inList_flatten (v : Value) (parts : List (List Value)) (negate : Bool) :
    inList v parts.flatten negate =
      (Connective.ofParts negate).truth (parts.map fun part => inList v part negate) := by
  have hsplit : any (parts.flatten.map fun w => compare v .eq w) =
      any (parts.map fun part => any (part.map fun w => compare v .eq w)) := by
    rw [List.map_flatten, any_flatten, List.map_map]
    rfl
  cases negate with
  | false =>
    simp only [inList, negateIf_false]
    exact hsplit
  | true =>
    simp only [inList, negateIf_true]
    rw [hsplit, not_any, List.map_map]
    rfl

end Truth

/-! ### Evaluation -/

section

variable (columns : Bindings)

lemma evalEach_append (es fs : List Expr) :
    evalEach columns (es ++ fs) = evalEach columns es ++ evalEach columns fs := by
  simp only [evalEach_eq_map, List.map_append]

lemma collect_append (as bs : List Outcome) :
    collect (as ++ bs) = do
      let vs ← collect as
      let ws ← collect bs
      return vs ++ ws := by
  rw [collect, List.mapM_append]
  rfl

/-- The elements of the parts are evaluated from the first one to the last, as those of the whole
list are. -/
lemma collect_evalEach_flatten (parts : List (List Expr)) :
    collect (evalEach columns parts.flatten) =
      (parts.mapM fun part => collect (evalEach columns part)).map List.flatten := by
  induction parts with
  | nil => rfl
  | cons part parts ih =>
    rw [List.flatten_cons, evalEach_append, collect_append, ih, List.mapM_cons]
    cases collect (evalEach columns part) with
    | error e => rfl
    | ok vs => cases parts.mapM fun part => collect (evalEach columns part) <;> rfl

/-- The memberships in the parts of a list, when the value is there. -/
lemma evalAll_parts {e : Expr} {v : Value} (he : e.eval columns = .ok v) (negate : Bool)
    (parts : List (List Expr)) :
    evalAll columns (parts.map fun part => .inList e part negate) =
      (parts.mapM fun part => collect (evalEach columns part)).map
        (List.map fun vs => Truth.inList v vs negate) := by
  induction parts with
  | nil => rfl
  | cons part parts ih =>
    rw [List.map_cons, evalAll_cons, ih, Predicate.eval_inList, he, List.mapM_cons]
    cases collect (evalEach columns part) with
    | error e => rfl
    | ok vs => cases parts.mapM fun part => collect (evalEach columns part) <;> rfl

/-- The junction of the memberships in the parts of a list evaluates as the membership in the list.
The value is evaluated once more for each part, with the same outcome. -/
lemma Condition.eval_join_parts (e : Expr) {parts : List (List Expr)} (hparts : parts ≠ [])
    (negate : Bool) :
    ((Connective.ofParts negate).join (parts.map fun part => .inList e part negate)).eval columns =
      (Condition.inList e parts.flatten negate).eval columns := by
  rw [Connective.eval_join, Predicate.eval_inList]
  cases he : e.eval columns with
  | error error =>
    obtain ⟨part, parts, rfl⟩ := List.exists_cons_of_ne_nil hparts
    rw [List.map_cons, evalAll_cons, Predicate.eval_inList, he]
    rfl
  | ok v =>
    rw [evalAll_parts columns he, collect_evalEach_flatten]
    cases parts.mapM fun part => collect (evalEach columns part) with
    | error error => rfl
    | ok vss => exact congrArg Except.ok (Truth.inList_flatten v vss negate).symm

end

/-! ### Drafts -/

namespace Condition

/-- **Long lists.** Where lists are limited to 1000 elements, a membership in a longer one is
drafted in parentheses, as the memberships in its parts with `OR` between them, or `AND` if it is
negated. The parts are the list again, none of them is empty or too long, and the junction of the
memberships in them has the same truth as the membership in the list, or fails with the same error.
-/
theorem eval_inList_parts (s : Scope) (hs : s.family = .oracle) (e : Expr) {list : List Expr}
    (hlong : 1000 < list.length) (negate : Bool) :
    let parts := chunks 1000 list
    let members := parts.map fun part => Condition.inList e part negate
    Writers.ofRank.condition s (.inList e list negate) =
        "(" ++ .separated (Connective.ofParts negate).junction.separator
          (members.map (Writers.ofRank.condition s)) ++ ")" ∧
      (∀ part ∈ parts, Writers.ofRank.condition s (.inList e part negate) =
        Writers.ofRank.expr s e ++ " " ++ notIf negate ++ "IN (" ++
          .commas (part.map (Writers.ofRank.expr s)) ++ ")") ∧
      parts.flatten = list ∧ (∀ part ∈ parts, part ≠ [] ∧ part.length ≤ 1000) ∧
      ∀ columns, ((Connective.ofParts negate).join members).eval columns =
        (Condition.inList e list negate).eval columns := by
  intro parts members
  have hsize : 0 < 1000 := by decide
  have hne : list ≠ [] := List.length_pos_iff.mp (Nat.lt_of_le_of_lt (Nat.zero_le 1000) hlong)
  have hflatten : parts.flatten = list := flatten_chunks hsize list
  have hparts (part) (hmem : part ∈ parts) : part ≠ [] ∧ part.length ≤ 1000 :=
    ⟨ne_nil_of_mem_chunks hsize hmem, length_le_of_mem_chunks hmem⟩
  -- no part is long enough to be split up again
  have hpart (part) (hmem : part ∈ parts) : Writers.ofRank.condition s (.inList e part negate) =
      Writers.ofRank.inChunk s e negate part := by
    obtain ⟨hne, hle⟩ := hparts part hmem
    have hshort : ¬(s.family = .oracle ∧ Feature.inListLimit < part.length) :=
      fun h => Nat.not_lt.mpr hle h.2
    rw [Writers.condition_ofRank, Writers.draftCondition, Writers.inList,
      if_neg (by rwa [List.isEmpty_iff]), if_neg hshort]
  refine ⟨?_, hpart, hflatten, hparts, fun columns => ?_⟩
  · have hdraft : (chunks 1000 list).map (Writers.ofRank.inChunk s e negate) =
        members.map (Writers.ofRank.condition s) := by
      rw [List.map_map]
      exact List.map_congr_left fun part hmem => (hpart part hmem).symm
    rw [Writers.condition_ofRank, Writers.draftCondition, Writers.inList,
      if_neg (by rwa [List.isEmpty_iff]), if_pos ⟨hs, hlong⟩]
    change "(" ++ Draft.separated _ ((chunks 1000 list).map _) ++ ")" = _
    rw [hdraft]
    cases negate <;> rfl
  · rw [← hflatten]
    exact eval_join_parts columns e (chunks_ne_nil hsize hne) negate

/-- A value that is in the first part of a list, with NULL in the second one. -/
theorem eval_inList_parts_null :
    let s : Scope := { target := Renderer.target { dialect := .oracle12c } }
    let list := (List.range 1000).map Expr.number ++ [.null]
    let members := (chunks 1000 list).map fun part =>
      Condition.inList (.number 999) part true
    s.family = .oracle ∧ 1000 < list.length ∧
      (chunks 1000 list).map List.length = [1000, 1] ∧
      Writers.ofRank.condition s (.inList (.number 999) list true) =
        "(" ++ .separated " AND " (members.map (Writers.ofRank.condition s)) ++ ")" ∧
      evalAll .none_ members = .ok [some false, none] ∧
      (Condition.and members).eval .none_ = .ok (some false) ∧
      (Condition.inList (.number 999) list true).eval .none_ = .ok (some false) := by
  intro s list members
  have hlong : 1000 < list.length := by decide +kernel
  have heach : evalAll .none_ members = .ok [some false, none] := by decide +kernel
  have hall : (Condition.and members).eval .none_ = .ok (some false) := by
    rw [eval_and, heach]
    rfl
  obtain ⟨hdraft, -, -, -, heval⟩ := eval_inList_parts s rfl (.number 999) hlong true
  exact ⟨rfl, hlong, by decide +kernel, hdraft, heach, hall, (heval .none_).symm.trans hall⟩

end Condition

end Polysql

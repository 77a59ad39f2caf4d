import Polysql.Proofs.Reading.Readable
import Polysql.Query.Rank
/-!
The ranks of detours. A condition is spelled out by one of lower rank
(`Condition.rank_of_expandRowCompare` and its kin): the junctions that a detour builds up are flat,
however many values the rows have.
-/

namespace Polysql

/-! ### The rank of a condition -/

lemma rankOfExprs_nil : rankOfExprs [] = 1 := rfl

lemma rankOfExprs_cons (e : Expr) (es : List Expr) :
    rankOfExprs (e :: es) = max e.rank (rankOfExprs es) := rfl

lemma rankOfRows_cons (r : Row) (rs : List Row) :
    rankOfRows (r :: rs) = max (rankOfExprs r) (rankOfRows rs) := rfl

lemma rankOfConditions_nil : rankOfConditions [] = 1 := rfl

lemma rankOfConditions_cons (c : Condition) (cs : List Condition) :
    rankOfConditions (c :: cs) = max c.rank (rankOfConditions cs) := rfl

namespace Condition

lemma rank_always : always.rank = 1 := rfl

lemma rank_never : never.rank = 1 := rfl

lemma rank_compare (a : Expr) (op : CompareOp) (b : Expr) :
    (compare a op b).rank = 1 + max a.rank b.rank := rfl

lemma rank_between (e low high : Expr) (negate symmetric : Bool) :
    (between e low high negate symmetric).rank =
      (if symmetric then 3 else 1) + max e.rank (max low.rank high.rank) := rfl

lemma rank_isNull (e : Expr) (negate : Bool) : (isNull e negate).rank = 1 + e.rank := rfl

lemma rank_rowCompare (l : Row) (op : CompareOp) (r : Row) :
    (rowCompare l op r).rank = 5 + max (rankOfExprs l) (rankOfExprs r) := rfl

lemma rank_rowInList (row : Row) (list : List Row) (negate : Bool) :
    (rowInList row list negate).rank = 6 + max (rankOfExprs row) (rankOfRows list) := rfl

lemma rank_rowIsNull (row : Row) (negate : Bool) :
    (rowIsNull row negate).rank = 3 + rankOfExprs row := rfl

lemma rank_rowBetween (row low high : Row) (negate symmetric : Bool) :
    (rowBetween row low high negate symmetric).rank =
      8 + max (rankOfExprs row) (max (rankOfExprs low) (rankOfExprs high)) := rfl

lemma rank_not (c : Condition) : (not c).rank = 1 + c.rank := rfl

lemma rank_and (cs : List Condition) : (and cs).rank = 1 + rankOfConditions cs := rfl

lemma rank_or (cs : List Condition) : (or cs).rank = 1 + rankOfConditions cs := rfl

lemma rank_xor (c d : Condition) : (xor c d).rank = 4 + max c.rank d.rank := rfl

lemma one_le_rank (c : Condition) : 1 ≤ c.rank := by
  cases c with
  | always => exact Nat.le_refl 1
  | never => exact Nat.le_refl 1
  | like l =>
    obtain ⟨text, pattern, negate, ignoreCase, escape?⟩ := l
    cases ignoreCase with
    | false => exact Nat.le_add_right 1 _
    | true => exact Nat.le_trans (by decide) (Nat.le_add_right 4 _)
  | between e low high negate symmetric =>
    cases symmetric with
    | false => exact Nat.le_add_right 1 _
    | true => exact Nat.le_trans (by decide) (Nat.le_add_right 3 _)
  | _ => exact Nat.le_trans (by decide) (Nat.le_add_right _ _)

end Condition

/-! ### Ranks in lists -/

lemma one_le_rankOfExprs (es : List Expr) : 1 ≤ rankOfExprs es := by
  induction es with
  | nil => exact Nat.le_of_eq rankOfExprs_nil.symm
  | cons e es ih =>
    rw [rankOfExprs_cons]
    omega

lemma rank_le_rankOfExprs {e : Expr} {es : List Expr} (h : e ∈ es) :
    e.rank ≤ rankOfExprs es := by
  induction es with
  | nil => cases h
  | cons d es ih =>
    rw [rankOfExprs_cons]
    rcases List.mem_cons.mp h with rfl | h
    · omega
    · have := ih h
      omega

lemma rankOfExprs_le_rankOfRows {r : Row} {rs : List Row} (h : r ∈ rs) :
    rankOfExprs r ≤ rankOfRows rs := by
  induction rs with
  | nil => cases h
  | cons q rs ih =>
    rw [rankOfRows_cons]
    rcases List.mem_cons.mp h with rfl | h
    · omega
    · have := ih h
      omega

lemma rank_le_rankOfConditions {c : Condition} {cs : List Condition} (h : c ∈ cs) :
    c.rank ≤ rankOfConditions cs := by
  induction cs with
  | nil => cases h
  | cons d cs ih =>
    rw [rankOfConditions_cons]
    rcases List.mem_cons.mp h with rfl | h
    · omega
    · have := ih h
      omega

lemma rankOfConditions_le {k : Nat} (hk : 1 ≤ k) {cs : List Condition}
    (h : ∀ c ∈ cs, c.rank ≤ k) : rankOfConditions cs ≤ k := by
  induction cs with
  | nil =>
    rw [rankOfConditions_nil]
    exact hk
  | cons c cs ih =>
    obtain ⟨hc, hcs⟩ := List.forall_mem_cons.mp h
    have := ih hcs
    rw [rankOfConditions_cons]
    omega

namespace Condition

/-! ### Junctions that are built flat -/

/-- The condition has a rank of at most `k`, or is a junction of such conditions. -/
def UpTo (join : List Condition → Condition) (k : Nat) (c : Condition) : Prop :=
  c.rank ≤ k ∨ ∃ cs, c = join cs ∧ ∀ d ∈ cs, d.rank ≤ k

variable {k : Nat}

lemma rank_and_le {cs : List Condition} (h : (and cs).rank ≤ k) : ∀ c ∈ cs, c.rank ≤ k := by
  intro c hc
  have := rank_le_rankOfConditions hc
  rw [rank_and] at h
  omega

lemma rank_or_le {cs : List Condition} (h : (or cs).rank ≤ k) : ∀ c ∈ cs, c.rank ≤ k := by
  intro c hc
  have := rank_le_rankOfConditions hc
  rw [rank_or] at h
  omega

lemma UpTo.operands_and {cs : List Condition} (h : UpTo and k (and cs)) :
    ∀ c ∈ cs, c.rank ≤ k := by
  rcases h with h | ⟨ds, heq, hds⟩
  · exact rank_and_le h
  · cases heq
    exact hds

lemma UpTo.operands_or {cs : List Condition} (h : UpTo or k (or cs)) :
    ∀ c ∈ cs, c.rank ≤ k := by
  rcases h with h | ⟨ds, heq, hds⟩
  · exact rank_or_le h
  · cases heq
    exact hds

lemma UpTo.rank_le_of_ne {join : List Condition → Condition} {c : Condition}
    (h : UpTo join k c) (hne : ∀ cs, c ≠ join cs) : c.rank ≤ k := by
  rcases h with h | ⟨cs, heq, _⟩
  · exact h
  · exact absurd heq (hne cs)

lemma UpTo.both {c d : Condition} (hc : UpTo and k c) (hd : d.rank ≤ k) :
    UpTo and k (both c d) := by
  rw [Condition.both.eq_def]
  split
  next => exact .inl hd
  next => exact hc
  next =>
    exact .inr ⟨_, rfl, List.forall_mem_append.mpr ⟨hc.operands_and, rank_and_le hd⟩⟩
  next =>
    exact .inr ⟨_, rfl, List.forall_mem_append.mpr
      ⟨hc.operands_and, List.forall_mem_singleton.mpr hd⟩⟩
  next h =>
    exact .inr ⟨_, rfl, List.forall_mem_cons.mpr ⟨hc.rank_le_of_ne h, rank_and_le hd⟩⟩
  next h _ _ _ =>
    exact .inr ⟨_, rfl, List.forall_mem_cons.mpr
      ⟨hc.rank_le_of_ne h, List.forall_mem_singleton.mpr hd⟩⟩

lemma UpTo.either {c d : Condition} (hc : UpTo or k c) (hd : d.rank ≤ k) :
    UpTo or k (either c d) := by
  rw [Condition.either.eq_def]
  split
  next => exact .inl hd
  next => exact hc
  next =>
    exact .inr ⟨_, rfl, List.forall_mem_append.mpr ⟨hc.operands_or, rank_or_le hd⟩⟩
  next =>
    exact .inr ⟨_, rfl, List.forall_mem_append.mpr
      ⟨hc.operands_or, List.forall_mem_singleton.mpr hd⟩⟩
  next h =>
    exact .inr ⟨_, rfl, List.forall_mem_cons.mpr ⟨hc.rank_le_of_ne h, rank_or_le hd⟩⟩
  next h _ _ _ =>
    exact .inr ⟨_, rfl, List.forall_mem_cons.mpr
      ⟨hc.rank_le_of_ne h, List.forall_mem_singleton.mpr hd⟩⟩

lemma UpTo.foldl {join : List Condition → Condition} {op : Condition → Condition → Condition}
    (hop : ∀ {c d : Condition}, UpTo join k c → d.rank ≤ k → UpTo join k (op c d))
    {cs : List Condition} (hcs : ∀ c ∈ cs, c.rank ≤ k) {c : Condition} (hc : UpTo join k c) :
    UpTo join k (cs.foldl op c) := by
  induction cs generalizing c with
  | nil => exact hc
  | cons d ds ih =>
    obtain ⟨hd, hds⟩ := List.forall_mem_cons.mp hcs
    exact ih hds (hop hc hd)

lemma UpTo.rank_le {join : List Condition → Condition}
    (hjoin : ∀ cs, (join cs).rank = 1 + rankOfConditions cs) (hk : 1 ≤ k) {c : Condition}
    (h : UpTo join k c) : c.rank ≤ k + 1 := by
  rcases h with h | ⟨cs, rfl, hcs⟩
  · omega
  · have := rankOfConditions_le hk hcs
    rw [hjoin]
    omega

lemma rank_both_le {c d : Condition} (hk : 1 ≤ k) (hc : c.rank ≤ k) (hd : d.rank ≤ k) :
    (both c d).rank ≤ k + 1 :=
  (UpTo.both (.inl hc) hd).rank_le rank_and hk

lemma rank_either_le {c d : Condition} (hk : 1 ≤ k) (hc : c.rank ≤ k) (hd : d.rank ≤ k) :
    (either c d).rank ≤ k + 1 :=
  (UpTo.either (.inl hc) hd).rank_le rank_or hk

lemma upTo_all {cs : List Condition} (hk : 1 ≤ k) (hcs : ∀ c ∈ cs, c.rank ≤ k) :
    UpTo and k (all cs) := by
  have halways : UpTo and k always := .inl (by rwa [rank_always])
  exact UpTo.foldl UpTo.both hcs halways

lemma upTo_any {cs : List Condition} (hk : 1 ≤ k) (hcs : ∀ c ∈ cs, c.rank ≤ k) :
    UpTo or k (any cs) := by
  have hnever : UpTo or k never := .inl (by rwa [rank_never])
  exact UpTo.foldl UpTo.either hcs hnever

/-- The rank of a long conjunction does not depend on its length. -/
lemma rank_all_le {cs : List Condition} (hk : 1 ≤ k) (hcs : ∀ c ∈ cs, c.rank ≤ k) :
    (all cs).rank ≤ k + 1 :=
  (upTo_all hk hcs).rank_le rank_and hk

lemma rank_any_le {cs : List Condition} (hk : 1 ≤ k) (hcs : ∀ c ∈ cs, c.rank ≤ k) :
    (any cs).rank ≤ k + 1 :=
  (upTo_any hk hcs).rank_le rank_or hk

/-! ### Rows -/

lemma rank_compare_le {a b : Expr} {l r : Row} (ha : a ∈ l) (op : CompareOp) (hb : b ∈ r) :
    (compare a op b).rank ≤ 1 + max (rankOfExprs l) (rankOfExprs r) := by
  have := rank_le_rankOfExprs ha
  have := rank_le_rankOfExprs hb
  rw [rank_compare]
  omega

lemma rank_rowsEqual_le (l r : Row) :
    (rowsEqual l r).rank ≤ 2 + max (rankOfExprs l) (rankOfExprs r) := by
  have hequal : ∀ c ∈ List.zipWith equals l r,
      c.rank ≤ 1 + max (rankOfExprs l) (rankOfExprs r) := by
    intro c hc
    rw [← List.map_uncurry_zip_eq_zipWith] at hc
    obtain ⟨⟨a, b⟩, hmem, rfl⟩ := List.mem_map.mp hc
    exact rank_compare_le (List.of_mem_zip hmem).1 .eq (List.of_mem_zip hmem).2
  have hall := rank_all_le (by omega) hequal
  rw [rowsEqual]
  omega

lemma rank_rowsOrdered_le (op : CompareOp) : ∀ {before : List Condition} {l r : Row},
    (∀ c ∈ before, c.rank ≤ k) → 1 + max (rankOfExprs l) (rankOfExprs r) ≤ k →
      ∀ c ∈ rowsOrdered op before l r, c.rank ≤ k + 1 := by
  intro before l r
  fun_induction rowsOrdered op before l r with
  | case1 before a b =>
    intro hbefore hk
    have hab := rank_compare_le (List.mem_singleton_self a) op (List.mem_singleton_self b)
    have hlast := (upTo_all (by omega) hbefore).both (Nat.le_trans hab hk)
    exact List.forall_mem_singleton.mpr (hlast.rank_le rank_and (by omega))
  | case2 before a l b r _ ih =>
    intro hbefore hk
    have hab (op : CompareOp) : (compare a op b).rank ≤ k :=
      Nat.le_trans (rank_compare_le List.mem_cons_self op List.mem_cons_self) hk
    have hfirst := ((upTo_all (by omega) hbefore).both (hab op.strict)).rank_le rank_and (by omega)
    have hequal : ∀ c ∈ before ++ [equals a b], c.rank ≤ k :=
      List.forall_mem_append.mpr ⟨hbefore, List.forall_mem_singleton.mpr (hab .eq)⟩
    refine List.forall_mem_cons.mpr ⟨hfirst, ih hequal ?_⟩
    rw [rankOfExprs_cons, rankOfExprs_cons] at hk
    omega
  | case3 => simp

/-- A comparison of rows has a rank that does not depend on their width. -/
lemma rank_rowsCompared_le (l : Row) (op : CompareOp) (r : Row) :
    (rowsCompared l op r).rank ≤ 3 + max (rankOfExprs l) (rankOfExprs r) := by
  have hequal := rank_rowsEqual_le l r
  have hordered : (any (rowsOrdered op [] l r)).rank ≤
      3 + max (rankOfExprs l) (rankOfExprs r) := by
    have hnone : ∀ c ∈ ([] : List Condition),
        c.rank ≤ 1 + max (rankOfExprs l) (rankOfExprs r) := List.forall_mem_nil _
    have := rank_any_le (by omega) (rank_rowsOrdered_le op hnone (Nat.le_refl _))
    omega
  cases op with
  | eq =>
    rw [rowsCompared]
    omega
  | ne =>
    rw [rowsCompared, rank_not]
    omega
  | _ => exact hordered

/-! ### Detours -/

/-- A symmetric `BETWEEN` goes down in rank. -/
lemma rank_of_expandBetween {e low high : Expr} {negate symmetric : Bool} {c : Condition}
    (h : expandBetween e low high negate symmetric = some c) :
    c.rank < (between e low high negate symmetric).rank := by
  rw [expandBetween] at h
  split at h
  next hsymmetric =>
    cases h
    cases negate <;> simp [rank_and, rank_or, rank_between, rankOfConditions_nil,
      rankOfConditions_cons, hsymmetric] <;> omega
  next => cases h

lemma rank_of_expandRowCompare {l r : Row} {op : CompareOp} {c : Condition}
    (h : expandRowCompare l op r = .ok c) : c.rank < (rowCompare l op r).rank := by
  have hcompared := rank_rowsCompared_le l op r
  rw [expandRowCompare, checkWidth] at h
  split at h
  · cases h
    rw [rank_rowCompare]
    omega
  · cases h

lemma rank_of_expandRowIn {row : Row} {list : List Row} {negate : Bool} {c : Condition}
    (h : expandRowIn row list negate = .ok c) : c.rank < (rowInList row list negate).rank := by
  have hcompared (op : CompareOp) : ∀ c ∈ list.map (rowsCompared row op),
      c.rank ≤ 3 + max (rankOfExprs row) (rankOfRows list) := by
    refine List.forall_mem_map.mpr fun r hr => ?_
    have := rankOfExprs_le_rankOfRows hr
    have := rank_rowsCompared_le row op r
    omega
  rw [expandRowIn] at h
  cases hwidth : list.forM (checkWidth row) with
  | error e =>
    rw [hwidth] at h
    cases h
  | ok u =>
    rw [hwidth] at h
    cases h
    rw [rank_rowInList]
    -- both spellings compare row by row and differ in the connective
    cases negate with
    | false =>
      have hany := rank_any_le (by omega) (hcompared .eq)
      rw [if_neg Bool.false_ne_true]
      omega
    | true =>
      have hall := rank_all_le (by omega) (hcompared .ne)
      rw [if_pos rfl]
      omega

lemma rank_expandRowIsNull (row : Row) (negate : Bool) :
    (expandRowIsNull row negate).rank < (rowIsNull row negate).rank := by
  have hnull : ∀ c ∈ row.map fun e => isNull e negate, c.rank ≤ 1 + rankOfExprs row := by
    refine List.forall_mem_map.mpr fun e he => ?_
    have := rank_le_rankOfExprs he
    rw [rank_isNull]
    omega
  have hall := rank_all_le (by omega) hnull
  rw [expandRowIsNull, rank_rowIsNull]
  omega

lemma rank_negated_le (negate : Bool) (c : Condition) :
    (if negate then not c else c).rank ≤ 1 + c.rank := by
  cases negate with
  | false => exact Nat.le_add_left c.rank 1
  | true => exact Nat.le_refl (1 + c.rank)

lemma rank_of_expandRowBetween {row low high : Row} {negate symmetric : Bool} {c : Condition}
    (h : expandRowBetween row low high negate symmetric = .ok c) :
    c.rank < (rowBetween row low high negate symmetric).rank := by
  have hbelow : 1 + (3 + max (rankOfExprs row) (max (rankOfExprs low) (rankOfExprs high)) + 1 + 1) <
      (rowBetween row low high negate symmetric).rank := by
    rw [rank_rowBetween]
    omega
  have hcompared {r : Row} (hr : r = low ∨ r = high) (op : CompareOp) :
      (rowsCompared row op r).rank ≤
        3 + max (rankOfExprs row) (max (rankOfExprs low) (rankOfExprs high)) := by
    have := rank_rowsCompared_le row op r
    rcases hr with rfl | rfl <;> omega
  have hpos : 1 ≤ 3 + max (rankOfExprs row) (max (rankOfExprs low) (rankOfExprs high)) := by
    omega
  -- between the bounds, between them turned round, and either of the two
  have hplain := rank_both_le hpos (hcompared (.inl rfl) .ge) (hcompared (.inr rfl) .le)
  have hturned := rank_both_le hpos (hcompared (.inr rfl) .ge) (hcompared (.inl rfl) .le)
  have heither := rank_either_le (Nat.le_succ_of_le hpos) hplain hturned
  rw [expandRowBetween, checkWidth, checkWidth] at h
  split at h
  · split at h
    · cases h
      refine Nat.lt_of_le_of_lt (rank_negated_le negate _) (Nat.lt_of_le_of_lt ?_ hbelow)
      cases symmetric with
      | false => exact Nat.add_le_add_left (Nat.le_succ_of_le hplain) 1
      | true => exact Nat.add_le_add_left heither 1
    · cases h
  · cases h

lemma rank_expandXor (c d : Condition) : (expandXor c d).rank < (xor c d).rank := by
  have := c.one_le_rank
  simp only [expandXor, rank_and, rank_or, rank_not, rank_xor, rankOfConditions_nil,
    rankOfConditions_cons]
  omega

end Condition

end Polysql

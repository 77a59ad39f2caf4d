import Mathlib.Tactic.Lemma
import Polysql.Query.Expansion
/-!
The conditions whose texts are read: junctions and negations of comparisons, bounds, memberships and
tests for NULL, on rows of columns and constants (`Condition.Readable`). The detours of such a
condition are such conditions as well (`Condition.readable_of_expandRowIn` and its kin).
-/

namespace Polysql

/-- A constant, or a column that has a name. -/
inductive Expr.IsOperand : Expr → Prop
  | constant (c : Constant) : IsOperand (.constant c)
  | field {n : Name} (h : n.parts ≠ []) (type : DataType) : IsOperand (.field n type)

/-- The values of the row have a property. -/
def IsRowOf (P : Expr → Prop) (r : Row) : Prop :=
  ∀ e ∈ r, P e

/-- The values of the row are constants and columns. -/
abbrev IsOperandRow : Row → Prop :=
  IsRowOf Expr.IsOperand

namespace Condition

/-- The condition is made of predicates on expressions with a property. Rows in a predicate are of
one width, and no junction has a single operand. -/
inductive Readable (P : Expr → Prop) : Condition → Prop
  | always : Readable P always
  | never : Readable P never
  | compare {a b : Expr} (ha : P a) (op : CompareOp) (hb : P b) : Readable P (compare a op b)
  | between {e low high : Expr} (he : P e) (hlow : P low) (hhigh : P high)
    (negate symmetric : Bool) : Readable P (between e low high negate symmetric)
  | isNull {e : Expr} (he : P e) (negate : Bool) : Readable P (isNull e negate)
  | rowCompare {l r : Row} (hl : IsRowOf P l) (op : CompareOp) (hr : IsRowOf P r)
    (hwidth : l.length = r.length) : Readable P (rowCompare l op r)
  | rowInList {row : Row} {list : List Row} (hrow : IsRowOf P row)
    (hlist : ∀ r ∈ list, IsRowOf P r) (hwidth : ∀ r ∈ list, row.length = r.length)
    (negate : Bool) : Readable P (rowInList row list negate)
  | rowIsNull {row : Row} (hrow : IsRowOf P row) (negate : Bool) :
    Readable P (rowIsNull row negate)
  | rowBetween {row low high : Row} (hrow : IsRowOf P row) (hlow : IsRowOf P low)
    (hhigh : IsRowOf P high) (hwidth : row.length = low.length ∧ row.length = high.length)
    (negate symmetric : Bool) : Readable P (rowBetween row low high negate symmetric)
  | not {c : Condition} (hc : Readable P c) : Readable P (not c)
  | and {cs : List Condition} (hlen : cs.length ≠ 1) (hcs : ∀ c ∈ cs, Readable P c) :
    Readable P (and cs)
  | or {cs : List Condition} (hlen : cs.length ≠ 1) (hcs : ∀ c ∈ cs, Readable P c) :
    Readable P (or cs)
  | xor {c d : Condition} (hc : Readable P c) (hd : Readable P d) : Readable P (xor c d)

variable {P : Expr → Prop}

lemma Readable.and_pair {c d : Condition} (hc : c.Readable P) (hd : d.Readable P) :
    Readable P (.and [c, d]) :=
  .and (by simp) (List.forall_mem_cons.mpr ⟨hc, List.forall_mem_singleton.mpr hd⟩)

lemma Readable.or_pair {c d : Condition} (hc : c.Readable P) (hd : d.Readable P) :
    Readable P (.or [c, d]) :=
  .or (by simp) (List.forall_mem_cons.mpr ⟨hc, List.forall_mem_singleton.mpr hd⟩)

/-! ### Junctions that are built flat -/

/-- The condition is readable, and stays so as an operand of a junction that takes in its own
operands. -/
structure Solid (P : Expr → Prop) (c : Condition) : Prop where
  readable : c.Readable P
  and {cs : List Condition} (h : c = and cs) : 2 ≤ cs.length
  or {cs : List Condition} (h : c = or cs) : 2 ≤ cs.length

namespace Solid

lemma of_and {cs : List Condition} (hlen : 2 ≤ cs.length) (hcs : ∀ c ∈ cs, c.Readable P) :
    Solid P (.and cs) where
  readable := .and (by omega) hcs
  and h := by
    cases h
    exact hlen
  or h := by cases h

lemma of_or {cs : List Condition} (hlen : 2 ≤ cs.length) (hcs : ∀ c ∈ cs, c.Readable P) :
    Solid P (.or cs) where
  readable := .or (by omega) hcs
  and h := by cases h
  or h := by
    cases h
    exact hlen

lemma operands_and {cs : List Condition} (h : Solid P (.and cs)) :
    2 ≤ cs.length ∧ ∀ c ∈ cs, c.Readable P := by
  refine ⟨h.and rfl, ?_⟩
  cases h.readable with
  | and _ hcs => exact hcs

lemma operands_or {cs : List Condition} (h : Solid P (.or cs)) :
    2 ≤ cs.length ∧ ∀ c ∈ cs, c.Readable P := by
  refine ⟨h.or rfl, ?_⟩
  cases h.readable with
  | or _ hcs => exact hcs

lemma always : Solid P .always :=
  ⟨.always, by simp, by simp⟩

lemma never : Solid P .never :=
  ⟨.never, by simp, by simp⟩

lemma compare {a b : Expr} (ha : P a) (op : CompareOp) (hb : P b) :
    Solid P (.compare a op b) :=
  ⟨.compare ha op hb, by simp, by simp⟩

lemma not {c : Condition} (h : Solid P c) : Solid P (.not c) :=
  ⟨.not h.readable, by simp, by simp⟩

lemma both {c d : Condition} (hc : Solid P c) (hd : Solid P d) : Solid P (both c d) := by
  rw [Condition.both.eq_def]
  split
  · exact hd
  · exact hc
  · obtain ⟨hlen, hcs⟩ := hc.operands_and
    refine of_and (by rw [List.length_append]; omega) ?_
    exact List.forall_mem_append.mpr ⟨hcs, hd.operands_and.2⟩
  · obtain ⟨hlen, hcs⟩ := hc.operands_and
    refine of_and (by rw [List.length_append]; omega) ?_
    exact List.forall_mem_append.mpr ⟨hcs, List.forall_mem_singleton.mpr hd.readable⟩
  · obtain ⟨hlen, hds⟩ := hd.operands_and
    refine of_and (by rw [List.length_cons]; omega) ?_
    exact List.forall_mem_cons.mpr ⟨hc.readable, hds⟩
  · refine of_and (Nat.le_refl 2) ?_
    exact List.forall_mem_cons.mpr ⟨hc.readable, List.forall_mem_singleton.mpr hd.readable⟩

lemma either {c d : Condition} (hc : Solid P c) (hd : Solid P d) : Solid P (either c d) := by
  rw [Condition.either.eq_def]
  split
  · exact hd
  · exact hc
  · obtain ⟨hlen, hcs⟩ := hc.operands_or
    refine of_or (by rw [List.length_append]; omega) ?_
    exact List.forall_mem_append.mpr ⟨hcs, hd.operands_or.2⟩
  · obtain ⟨hlen, hcs⟩ := hc.operands_or
    refine of_or (by rw [List.length_append]; omega) ?_
    exact List.forall_mem_append.mpr ⟨hcs, List.forall_mem_singleton.mpr hd.readable⟩
  · obtain ⟨hlen, hds⟩ := hd.operands_or
    refine of_or (by rw [List.length_cons]; omega) ?_
    exact List.forall_mem_cons.mpr ⟨hc.readable, hds⟩
  · refine of_or (Nat.le_refl 2) ?_
    exact List.forall_mem_cons.mpr ⟨hc.readable, List.forall_mem_singleton.mpr hd.readable⟩

lemma foldl {op : Condition → Condition → Condition}
    (hop : ∀ {c d : Condition}, Solid P c → Solid P d → Solid P (op c d)) {cs : List Condition}
    (hcs : ∀ c ∈ cs, Solid P c) : ∀ {c : Condition}, Solid P c → Solid P (cs.foldl op c) := by
  induction cs with
  | nil => exact id
  | cons d ds ih =>
    obtain ⟨hd, hds⟩ := List.forall_mem_cons.mp hcs
    exact fun hc => ih hds (hop hc hd)

lemma all {cs : List Condition} (hcs : ∀ c ∈ cs, Solid P c) : Solid P (all cs) :=
  foldl both hcs always

lemma any {cs : List Condition} (hcs : ∀ c ∈ cs, Solid P c) : Solid P (any cs) :=
  foldl either hcs never

end Solid

/-! ### Detours -/

lemma solid_equals {l r : Row} (hl : IsRowOf P l) (hr : IsRowOf P r) :
    ∀ c ∈ List.zipWith equals l r, Solid P c := by
  intro c hc
  rw [← List.map_uncurry_zip_eq_zipWith] at hc
  obtain ⟨⟨a, b⟩, hmem, rfl⟩ := List.mem_map.mp hc
  exact .compare (hl a (List.of_mem_zip hmem).1) .eq (hr b (List.of_mem_zip hmem).2)

lemma solid_rowsOrdered (op : CompareOp) : ∀ {before : List Condition} {l r : Row},
    (∀ c ∈ before, Solid P c) → IsRowOf P l → IsRowOf P r →
      ∀ c ∈ rowsOrdered op before l r, Solid P c := by
  intro before l r
  -- the recursion takes along the equalities of the elements before
  fun_induction rowsOrdered op before l r with
  | case1 before a b =>
    intro hbefore hl hr
    have hab := Solid.compare (hl a List.mem_cons_self) op (hr b List.mem_cons_self)
    exact List.forall_mem_singleton.mpr (.both (.all hbefore) hab)
  | case2 before a l b r _ ih =>
    intro hbefore hl hr
    obtain ⟨ha, hl⟩ := List.forall_mem_cons.mp hl
    obtain ⟨hb, hr⟩ := List.forall_mem_cons.mp hr
    have hequal : ∀ c ∈ before ++ [equals a b], Solid P c :=
      List.forall_mem_append.mpr
        ⟨hbefore, List.forall_mem_singleton.mpr (.compare ha .eq hb)⟩
    exact List.forall_mem_cons.mpr
      ⟨.both (.all hbefore) (.compare ha op.strict hb), ih hequal hl hr⟩
  | case3 => simp

lemma solid_rowsCompared {l r : Row} (hl : IsRowOf P l) (op : CompareOp)
    (hr : IsRowOf P r) : Solid P (rowsCompared l op r) := by
  have hequal : Solid P (rowsEqual l r) := .all (solid_equals hl hr)
  have hordered : Solid P (any (rowsOrdered op [] l r)) :=
    .any (solid_rowsOrdered op (by simp) hl hr)
  cases op with
  | eq => exact hequal
  | ne => exact hequal.not
  | _ => exact hordered

lemma readable_of_expandBetween {e low high : Expr} (he : P e) (hlow : P low)
    (hhigh : P high) {negate symmetric : Bool} {c : Condition}
    (h : expandBetween e low high negate symmetric = some c) : c.Readable P := by
  have hforward := Readable.between he hlow hhigh negate false
  have hbackward := Readable.between he hhigh hlow negate false
  rw [expandBetween] at h
  split at h
  · cases h
    cases negate with
    | false => exact hforward.or_pair hbackward
    | true => exact hforward.and_pair hbackward
  · cases h

lemma readable_of_expandRowCompare {l r : Row} (hl : IsRowOf P l) {op : CompareOp}
    (hr : IsRowOf P r) {c : Condition} (h : expandRowCompare l op r = .ok c) : c.Readable P := by
  rw [expandRowCompare, checkWidth] at h
  split at h
  · cases h
    exact (solid_rowsCompared hl op hr).readable
  · cases h

lemma readable_of_expandRowIn {row : Row} (hrow : IsRowOf P row) {list : List Row}
    (hlist : ∀ r ∈ list, IsRowOf P r) {negate : Bool} {c : Condition}
    (h : expandRowIn row list negate = .ok c) : c.Readable P := by
  have hsolid (op : CompareOp) : ∀ c ∈ list.map (rowsCompared row op), Solid P c :=
    List.forall_mem_map.mpr fun r hr =>
      solid_rowsCompared hrow op (hlist r hr)
  rw [expandRowIn] at h
  cases hwidth : list.forM (checkWidth row) with
  | error e =>
    rw [hwidth] at h
    cases h
  | ok u =>
    rw [hwidth] at h
    cases h
    cases negate with
    | false => exact (Solid.any (hsolid .eq)).readable
    | true => exact (Solid.all (hsolid .ne)).readable

lemma readable_expandRowIsNull {row : Row} (hrow : IsRowOf P row) (negate : Bool) :
    (expandRowIsNull row negate).Readable P :=
  have hsolid : ∀ c ∈ row.map fun e => isNull e negate, Solid P c :=
    List.forall_mem_map.mpr fun e he => ⟨.isNull (hrow e he) negate, by simp, by simp⟩
  (Solid.all hsolid).readable

lemma readable_of_expandRowBetween {row low high : Row} (hrow : IsRowOf P row)
    (hlow : IsRowOf P low) (hhigh : IsRowOf P high) {negate symmetric : Bool}
    {c : Condition} (h : expandRowBetween row low high negate symmetric = .ok c) :
    c.Readable P := by
  have hcompared {r : Row} (hr : IsRowOf P r) (op : CompareOp) :
      Solid P (rowsCompared row op r) :=
    solid_rowsCompared hrow op hr
  have hplain := (hcompared hlow .ge).both (hcompared hhigh .le)
  have hturned := (hcompared hhigh .ge).both (hcompared hlow .le)
  rw [expandRowBetween, checkWidth, checkWidth] at h
  split at h
  · split at h
    · cases h
      cases symmetric with
      | false =>
        cases negate with
        | false => exact hplain.readable
        | true => exact hplain.not.readable
      | true =>
        cases negate with
        | false => exact (hplain.either hturned).readable
        | true => exact (hplain.either hturned).not.readable
    · cases h
  · cases h

lemma Readable.expandXor {c d : Condition} (hc : c.Readable P) (hd : d.Readable P) :
    (expandXor c d).Readable P :=
  (hc.or_pair hd).and_pair (.not (hc.and_pair hd))

end Condition

end Polysql

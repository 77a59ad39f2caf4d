import Polysql.Proofs.Evaluation.RowOrder
import Polysql.Proofs.Value.Transitive
/-!
Bounds in either order. A test with symmetric bounds asks whether a value or a row is between the
two, or between them the other way round, so their order does not matter. Where the low bound is at
most the high one, the second question adds nothing: what is at least the high bound and at most the
low one is equal to both, and what is before the low bound is before the high one. That holds of
rows as it does of values, since the first place where two rows differ decides between them
(`Value.compareAll?`), with an order that is as transitive as that of values
(`Value.compareAll?_trans`). So a test with symmetric bounds is the plain one
(`Condition.eval_symmetricBounds`).
-/

namespace Polysql

/-! ### The order of rows -/

namespace Value

/-- The order of two rows: that of their values at the first place where they are not equal, and
none if they cannot be compared there. -/
def compareAll? : List Value → List Value → Option Ordering
  | v :: vs, w :: ws =>
    match v.compare? w with
    | some .eq => compareAll? vs ws
    | o? => o?
  | _, _ => some .eq

variable {v w : Value} {vs ws us : List Value} {o p : Ordering}

lemma compareAll?_cons_of_eq (h : v.compare? w = some .eq) :
    compareAll? (v :: vs) (w :: ws) = compareAll? vs ws := by
  rw [compareAll?, h]

lemma compareAll?_cons_of_ne (h : v.compare? w ≠ some .eq) :
    compareAll? (v :: vs) (w :: ws) = v.compare? w := by
  rw [compareAll?]
  split
  case h_1 heq => exact absurd heq h
  case h_2 => rfl

/-- Turned round, rows have the opposite order. -/
lemma compareAll?_swap (vs ws : List Value) :
    compareAll? ws vs = (compareAll? vs ws).map Ordering.swap := by
  induction vs generalizing ws with
  | nil => cases ws <;> rfl
  | cons v vs ih =>
    cases ws with
    | nil => rfl
    | cons w ws =>
      have hswap := compare?_swap v w
      by_cases heq : v.compare? w = some .eq
      · rw [compareAll?_cons_of_eq heq, ← ih]
        rw [heq] at hswap
        exact compareAll?_cons_of_eq hswap
      · have hne : w.compare? v ≠ some .eq := by
          rw [hswap]
          rcases h : v.compare? w with _ | _ | _ | _ <;> simp_all
        rw [compareAll?_cons_of_ne heq, compareAll?_cons_of_ne hne, hswap]

/-- The order of rows without doubles is as transitive as that of their values. -/
lemma compareAll?_trans (hlen : vs.length = ws.length) (hlen' : ws.length = us.length)
    (hvs : ∀ v ∈ vs, v.isDouble = false) (hws : ∀ w ∈ ws, w.isDouble = false)
    (hus : ∀ u ∈ us, u.isDouble = false) (hvw : compareAll? vs ws = some o)
    (hwu : compareAll? ws us = some p) (ho : o.isLE) (hp : p.isLE) :
    compareAll? vs us = some (o.then p) := by
  induction vs generalizing ws us with
  | nil =>
    obtain rfl := List.length_eq_zero_iff.mp hlen.symm
    obtain rfl := List.length_eq_zero_iff.mp hlen'.symm
    cases hvw
    exact hwu
  | cons v vs ih =>
    obtain ⟨w, ws, rfl⟩ := List.exists_cons_of_length_eq_add_one hlen.symm
    obtain ⟨u, us, rfl⟩ := List.exists_cons_of_length_eq_add_one hlen'.symm
    obtain ⟨hv, hvs⟩ := List.forall_mem_cons.mp hvs
    obtain ⟨hw, hws⟩ := List.forall_mem_cons.mp hws
    obtain ⟨hu, hus⟩ := List.forall_mem_cons.mp hus
    have hlt {q : Ordering} (hq : q.isLE) (hne : q ≠ .eq) : q = .lt := by
      cases q <;> simp_all
    have htrans {q r : Ordering} := compare?_trans (o := q) (p := r) hv hw hu
    by_cases heq : v.compare? w = some .eq
    · rw [compareAll?_cons_of_eq heq] at hvw
      by_cases heq' : w.compare? u = some .eq
      · rw [compareAll?_cons_of_eq heq'] at hwu
        rw [compareAll?_cons_of_eq (htrans heq heq' rfl rfl)]
        exact ih (Nat.succ.inj hlen) (Nat.succ.inj hlen') hvs hws hus hvw hwu
      -- the second and the third row differ at this place, as the first and the third do then
      · rw [compareAll?_cons_of_ne heq'] at hwu
        obtain rfl := hlt hp fun h => heq' (h ▸ hwu)
        have hvu := htrans heq hwu rfl rfl
        rw [compareAll?_cons_of_ne (by rw [hvu]; nofun), hvu]
        cases o <;> simp_all
    -- the first and the second row differ at this place, and the third is no less than the second
    · rw [compareAll?_cons_of_ne heq] at hvw
      obtain rfl := hlt ho fun h => heq (h ▸ hvw)
      have hvu : v.compare? u = some .lt := by
        by_cases heq' : w.compare? u = some .eq
        · exact htrans hvw heq' rfl rfl
        · rw [compareAll?_cons_of_ne heq'] at hwu
          exact htrans hvw hwu rfl hp
      rw [compareAll?_cons_of_ne (by rw [hvu]; nofun), hvu]
      rfl

end Value

namespace Truth

lemma compare_eq_some_true_iff {v w : Value} :
    compare v .eq w = some true ↔ v.compare? w = some .eq := by
  rw [compare]
  rcases v.compare? w with _ | _ | _ | _ <;> simp [CompareOp.holds]

/-- Rows compare by their order. -/
lemma compareRows_zip {op : CompareOp} (hop : op.isOrdering = true) {vs ws : List Value}
    (hlen : vs.length = ws.length) (hne : vs ≠ []) :
    compareRows op (vs.zip ws) = (Value.compareAll? vs ws).map op.holds := by
  rw [compareRows_eq_lexicographic hop]
  induction vs generalizing ws with
  | nil => exact absurd rfl hne
  | cons v vs ih =>
    obtain ⟨w, ws, rfl⟩ := List.exists_cons_of_length_eq_add_one hlen.symm
    have hlen := Nat.succ.inj hlen
    rw [List.zip_cons_cons]
    -- equal elements pass the decision on, unless they are the last ones
    by_cases heq : v.compare? w = some .eq
    · rw [Value.compareAll?_cons_of_eq heq]
      cases vs with
      | nil =>
        rw [List.zip_nil_left, lexicographic, compare, heq]
        rfl
      | cons v' vs =>
        rw [← ih hlen (List.cons_ne_nil _ _), lexicographic,
          if_pos (compare_eq_some_true_iff.mpr heq)]
        obtain ⟨w', ws, rfl⟩ := List.exists_cons_of_length_eq_add_one hlen.symm
        exact List.cons_ne_nil _ _
    · rw [Value.compareAll?_cons_of_ne heq]
      cases vs with
      | nil => rw [List.zip_nil_left, lexicographic, compare]
      | cons v' vs =>
        obtain ⟨w', ws, rfl⟩ := List.exists_cons_of_length_eq_add_one hlen.symm
        rw [List.zip_cons_cons, lexicographic, if_neg (mt compare_eq_some_true_iff.mp heq), compare]
        -- unequal elements are strictly ordered, so a bound that is met is met strictly
        · rcases h : v.compare? w with _ | _ | _ | _
          · rfl
          · cases op <;> rfl
          · exact absurd h heq
          · cases op <;> rfl
        · exact List.cons_ne_nil _ _

/-! ### Bounds -/

/-- Between two bounds is what is in the order `p?` to the low one and `q?` to the high one. -/
def bounded (p? q? : Option Ordering) : Truth :=
  all [p?.map CompareOp.ge.holds, q?.map CompareOp.le.holds]

/-- Between bounds that are in order is what is between them in either order. -/
lemma any_bounded {p? q? : Option Ordering} {o : Ordering} (ho : o.isLE)
    (hlow : ∀ p, p? = some p → p.isLE → q? = some (p.then o))
    (hhigh : ∀ q, q? = some q → q.swap.isLE → p? = some (o.then q.swap).swap) :
    any [bounded p? q?, bounded q? p?] = bounded p? q? := by
  by_cases hp : ∃ p, p? = some p ∧ p.isLE
  · obtain ⟨p, rfl, hp⟩ := hp
    obtain rfl := hlow p rfl hp
    cases p <;> cases o <;> first | rfl | exact absurd hp (by decide) | exact absurd ho (by decide)
  by_cases hq : ∃ q, q? = some q ∧ q.swap.isLE
  · obtain ⟨q, rfl, hq⟩ := hq
    obtain rfl := hhigh q rfl hq
    cases q <;> cases o <;> first | rfl | exact absurd hq (by decide) | exact absurd ho (by decide)
  -- turned round, nothing is between the bounds that is not at most the low one
  · rcases p? with _ | _ | _ | _ <;> rcases q? with _ | _ | _ | _ <;>
      first | rfl | exact absurd ⟨_, rfl, rfl⟩ hp | exact absurd ⟨_, rfl, rfl⟩ hq

lemma any_pair_comm (s t : Truth) : any [s, t] = any [t, s] := by
  rcases s with _ | _ | _ <;> rcases t with _ | _ | _ <;> rfl

/-- Symmetric bounds can be exchanged. -/
lemma between_exchanged (v l h : Value) (negate : Bool) :
    between v h l negate true = between v l h negate true := by
  rw [between, between, if_pos rfl, if_pos rfl, any_pair_comm]

/-- A value is between symmetric bounds that are in order as it is between plain ones. -/
lemma between_of_le {v l h : Value} (hv : v.isDouble = false) (hl : l.isDouble = false)
    (hh : h.isDouble = false) (hle : compare l .le h = some true) (negate : Bool) :
    between v l h negate true = between v l h negate false := by
  obtain ⟨o, hlh, ho⟩ := compare_le_iff.mp hle
  refine congrArg (negateIf negate) (any_bounded ho (fun p hp hle => ?_) fun q hq hle => ?_)
  · exact Value.compare?_trans hv hl hh hp hlh hle ho
  · have hhv : h.compare? v = some q.swap := by rw [Value.compare?_swap v h, hq]; rfl
    rw [Value.compare?_swap l v, Value.compare?_trans hl hh hv hlh hhv ho hle]
    rfl

section

variable {vs ls hs : List Value}

/-- A row between two others. -/
def rowWithin (vs ls hs : List Value) : Truth :=
  all [compareRows .ge (vs.zip ls), compareRows .le (vs.zip hs)]

lemma rowWithin_eq_bounded (hlow : ls.length = vs.length) (hhigh : hs.length = vs.length)
    (hne : vs ≠ []) :
    rowWithin vs ls hs = bounded (Value.compareAll? vs ls) (Value.compareAll? vs hs) := by
  have hge : CompareOp.ge.isOrdering = true := rfl
  have hle : CompareOp.le.isOrdering = true := rfl
  rw [rowWithin, compareRows_zip hge hlow.symm hne, compareRows_zip hle hhigh.symm hne, bounded]

/-- A row is between symmetric bounds that are in order as it is between plain ones. -/
lemma any_rowWithin (hlow : ls.length = vs.length) (hhigh : hs.length = vs.length)
    (hvs : ∀ v ∈ vs, v.isDouble = false) (hls : ∀ l ∈ ls, l.isDouble = false)
    (hhs : ∀ h ∈ hs, h.isDouble = false) (hle : compareRows .le (ls.zip hs) = some true) :
    any [rowWithin vs ls hs, rowWithin vs hs ls] = rowWithin vs ls hs := by
  have hne : ls ≠ [] := by
    rintro rfl
    cases hle
  have hne' : vs ≠ [] := by
    rw [← List.length_pos_iff] at hne ⊢
    omega
  -- the rows of bounds are ordered as a whole, which makes their comparison transitive
  have hlen : ls.length = hs.length := hlow.trans hhigh.symm
  obtain ⟨o, hlh, ho⟩ : ∃ o, Value.compareAll? ls hs = some o ∧ o.isLE := by
    rw [compareRows_zip rfl hlen hne, Option.map_eq_some_iff] at hle
    obtain ⟨o, hlh, ho⟩ := hle
    exact ⟨o, hlh, by cases o <;> simp_all [CompareOp.holds]⟩
  rw [rowWithin_eq_bounded hlow hhigh hne', rowWithin_eq_bounded hhigh hlow hne']
  refine any_bounded ho (fun p hp hle => ?_) fun q hq hle => ?_
  · exact Value.compareAll?_trans hlow.symm hlen hvs hls hhs hp hlh hle ho
  · have hhv : Value.compareAll? hs vs = some q.swap := by rw [Value.compareAll?_swap, hq]; rfl
    rw [Value.compareAll?_swap, Value.compareAll?_trans hlen hhigh hls hhs hvs hlh hhv ho hle]
    rfl

end

end Truth

/-! ### Conditions -/

namespace Condition

variable (columns : Bindings) {row low high : Row} {vs ls hs : List Value}

lemma eval_rowBetween_values (hlow : ls.length = vs.length) (hhigh : hs.length = vs.length)
    (hv : row.map (Expr.eval columns) = vs.map .ok) (hl : low.map (Expr.eval columns) = ls.map .ok)
    (hh : high.map (Expr.eval columns) = hs.map .ok) (negate symmetric : Bool) :
    (rowBetween row low high negate symmetric).eval columns =
      .ok (Truth.negateIf negate
        (if symmetric then .any [Truth.rowWithin vs ls hs, Truth.rowWithin vs hs ls]
        else Truth.rowWithin vs ls hs)) := by
  change Truth.rowBetween (evalEach columns row) (evalEach columns low) (evalEach columns high)
    negate symmetric = _
  rw [Truth.rowBetween, evalEach_eq_map, evalEach_eq_map, evalEach_eq_map, hv, hl, hh,
    checkOutcomes, checkOutcomes, List.length_map, List.length_map, List.length_map,
    if_pos hlow.symm, if_pos hhigh.symm, pairUp_values, pairUp_values]
  rfl

/-- **Symmetric bounds.** Between symmetric bounds is a value, or a row of any width, as it is with
the bounds exchanged. If no double takes part and the low bound is at most the high one, it is as it
is between plain bounds, whatever is NULL or cannot be compared in it. -/
theorem eval_symmetricBounds (negate : Bool) :
    (∀ (e low high : Expr) (v l h : Value), e.eval columns = .ok v → low.eval columns = .ok l →
      high.eval columns = .ok h →
      (∃ t, (between e low high negate true).eval columns = .ok t ∧
        (between e high low negate true).eval columns = .ok t) ∧
      (v.isDouble = false → l.isDouble = false → h.isDouble = false →
        Truth.compare l .le h = some true →
        (between e low high negate true).eval columns =
          (between e low high negate false).eval columns)) ∧
    ∀ (row low high : Row) (vs ls hs : List Value), ls.length = vs.length →
      hs.length = vs.length → row.map (Expr.eval columns) = vs.map .ok →
      low.map (Expr.eval columns) = ls.map .ok → high.map (Expr.eval columns) = hs.map .ok →
      (∃ t, (rowBetween row low high negate true).eval columns = .ok t ∧
        (rowBetween row high low negate true).eval columns = .ok t) ∧
      ((∀ v ∈ vs, v.isDouble = false) → (∀ l ∈ ls, l.isDouble = false) →
        (∀ h ∈ hs, h.isDouble = false) → Truth.compareRows .le (ls.zip hs) = some true →
        (rowBetween row low high negate true).eval columns =
          (rowBetween row low high negate false).eval columns) := by
  constructor
  · intro e low high v l h he hl hh
    simp only [eval_between, he, hl, hh, ok_bind]
    refine ⟨⟨_, rfl, congrArg Except.ok (Truth.between_exchanged v l h negate)⟩, ?_⟩
    intro hv hl hh hle
    exact congrArg Except.ok (Truth.between_of_le hv hl hh hle negate)
  · intro row low high vs ls hs hlow hhigh hv hl hh
    rw [eval_rowBetween_values columns hlow hhigh hv hl hh,
      eval_rowBetween_values columns hlow hhigh hv hl hh,
      eval_rowBetween_values columns hhigh hlow hv hh hl, if_pos rfl, if_pos rfl]
    refine ⟨⟨_, rfl, by rw [Truth.any_pair_comm]⟩, fun hvs hls hhs hle => ?_⟩
    rw [Truth.any_rowWithin hlow hhigh hvs hls hhs hle]
    rfl

/-- `(1, NULL)` between `(1, 3)` and `(2, 0)`: the first row is at least the low bound only if what
is NULL is, which is not known. Between `(0, 3)` and `(2, 0)`, the first element decides. -/
theorem eval_symmetricBounds_null :
    ((∃ t, (rowBetween [.number 1, .null] [.number 1, .number 3] [.number 2, .number 0] false
        true).eval .none_ = .ok t ∧
      (rowBetween [.number 1, .null] [.number 2, .number 0] [.number 1, .number 3] false
        true).eval .none_ = .ok t) ∧
    (rowBetween [.number 1, .null] [.number 1, .number 3] [.number 2, .number 0] false
      true).eval .none_ = .ok none) ∧
    (∃ t, (rowBetween [.number 1, .null] [.number 0, .number 3] [.number 2, .number 0] false
        true).eval .none_ = .ok t ∧
      (rowBetween [.number 1, .null] [.number 2, .number 0] [.number 0, .number 3] false
        true).eval .none_ = .ok t) ∧
    (rowBetween [.number 1, .null] [.number 0, .number 3] [.number 2, .number 0] false
      true).eval .none_ = .ok (some true) := by
  have hrow : ∀ v ∈ [Value.ofNat 1, .null], v.isDouble = false := by
    simp [Value.isDouble, Value.ofNat]
  have hhigh : ∀ v ∈ [Value.ofNat 2, .ofNat 0], v.isDouble = false := by
    simp [Value.isDouble, Value.ofNat]
  have hlow (k : Nat) : ∀ v ∈ [Value.ofNat k, .ofNat 3], v.isDouble = false := by
    simp [Value.isDouble, Value.ofNat]
  obtain ⟨hexchanged, hplain⟩ := (eval_symmetricBounds .none_ false).2
    [.number 1, .null] [.number 1, .number 3] [.number 2, .number 0]
    [.ofNat 1, .null] [.ofNat 1, .ofNat 3] [.ofNat 2, .ofNat 0] rfl rfl rfl rfl rfl
  obtain ⟨hdecided, hplain'⟩ := (eval_symmetricBounds .none_ false).2
    [.number 1, .null] [.number 0, .number 3] [.number 2, .number 0]
    [.ofNat 1, .null] [.ofNat 0, .ofNat 3] [.ofNat 2, .ofNat 0] rfl rfl rfl rfl rfl
  exact ⟨⟨hexchanged, (hplain hrow (hlow 1) hhigh (by decide)).trans (by rfl)⟩, hdecided,
    (hplain' hrow (hlow 0) hhigh (by decide)).trans (by rfl)⟩

end Condition

end Polysql

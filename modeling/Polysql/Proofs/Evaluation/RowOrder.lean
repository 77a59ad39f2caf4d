import Polysql.Proofs.Evaluation.Row
/-!
The order of rows is lexicographic. The disjunction that compares two rows is decided at one place:
the first one where the values are not known to be equal, or the last one
(`Truth.compareRows_of_decided`). What is unknown at later places does not matter, for there the
disjunction asks for an equality at the deciding place. A comparison of rows fails exactly if a
value of them does, or if one row is wider than the other (`Condition.eval_rowCompare_decided`).
-/

namespace Polysql

namespace Truth

/-- The order of two rows by the first place where they are not known to be equal. The comparison
itself decides at the last place only, and the one without equality before that. -/
def lexicographic (op : CompareOp) : List (Value × Value) → Truth
  | [] => some false
  | [(a, b)] => compare a op b
  | (a, b) :: rest =>
    if compare a .eq b = some true then lexicographic op rest else compare a op.strict b

/-- The pair of values that decides the order of two rows: the pairs before it are known to be
equal, and it is not, unless it is the last one. -/
structure Decided (pairs before : List (Value × Value)) (a b : Value)
    (after : List (Value × Value)) : Prop where
  eq_append : pairs = before ++ (a, b) :: after
  equal_before : ∀ p ∈ before, compare p.1 .eq p.2 = some true
  differs : after ≠ [] → compare a .eq b ≠ some true

/-! ### Values -/

/-- A comparison is unknown with the equality. -/
lemma compare_of_unknown {a b : Value} (h : compare a .eq b = none) (op : CompareOp) :
    compare a op b = none := by
  rw [compare, Option.map_eq_none_iff] at h ⊢
  exact h

section

variable {op : CompareOp} (hop : op.isOrdering = true)
include hop

/-- Values that are known to be equal do not come before each other. -/
lemma compare_strict_of_equal {a b : Value} (h : compare a .eq b = some true) :
    compare a op.strict b = some false := by
  rw [compare] at h ⊢
  cases hab : a.compare? b with
  | none => simp [hab] at h
  | some o =>
    cases o with
    | eq => cases op <;> first | rfl | simp [CompareOp.isOrdering] at hop
    | lt | gt => simp [hab, CompareOp.holds] at h

/-! ### The deciding place -/

/-- The ways of one row to come before another share the equalities passed so far, and of what comes
after those the first differing place decides. -/
lemma any_waysToPrecede (equal : List Truth) (pairs : List (Value × Value)) :
    any (waysToPrecede op equal pairs) = all [all equal, lexicographic op pairs] := by
  induction pairs generalizing equal with
  | nil => rcases all equal with _ | _ | _ <;> rfl
  | cons p rest ih =>
    obtain ⟨a, b⟩ := p
    cases rest with
    | nil => rw [waysToPrecede, any_singleton, all_append, all_singleton, lexicographic]
    | cons q rest =>
      have hways : waysToPrecede op equal ((a, b) :: q :: rest) =
          all (equal ++ [compare a op.strict b]) ::
            waysToPrecede op (equal ++ [compare a .eq b]) (q :: rest) := rfl
      have hlex : lexicographic op ((a, b) :: q :: rest) =
          if compare a .eq b = some true then lexicographic op (q :: rest)
          else compare a op.strict b := rfl
      rw [hways, any_cons, ih, all_append, all_append, all_singleton, all_singleton, hlex]
      -- with the equality false or unknown, the later ways are no truer than the one at this place
      rcases heq : compare a .eq b with _ | _ | _
      · rw [compare_of_unknown heq]
        rcases all equal with _ | _ | _ <;> rcases lexicographic op (q :: rest) with _ | _ | _ <;>
          rfl
      · rcases all equal with _ | _ | _ <;> rcases lexicographic op (q :: rest) with _ | _ | _ <;>
          rcases compare a op.strict b with _ | _ | _ <;> rfl
      · rw [compare_strict_of_equal hop heq]
        rcases all equal with _ | _ | _ <;> rcases lexicographic op (q :: rest) with _ | _ | _ <;>
          rfl

lemma compareRows_eq_lexicographic (pairs : List (Value × Value)) :
    compareRows op pairs = lexicographic op pairs := by
  have hways : compareRows op pairs = any (waysToPrecede op [] pairs) := by
    cases op <;> first | rfl | simp [CompareOp.isOrdering] at hop
  rw [hways, any_waysToPrecede hop, all_nil]
  rcases lexicographic op pairs with _ | _ | _ <;> rfl

/-- **The deciding place.** Two rows compare as their values there do, without equality unless it is
the last place. -/
theorem compareRows_of_decided {pairs before : List (Value × Value)} {a b : Value}
    {after : List (Value × Value)} (h : Decided pairs before a b after) :
    compareRows op pairs = compare a (if after = [] then op else op.strict) b := by
  rw [compareRows_eq_lexicographic hop]
  obtain ⟨rfl, hbefore, hdiffers⟩ := h
  induction before with
  | nil =>
    cases after with
    | nil => rfl
    | cons q after =>
      rw [List.nil_append, lexicographic, if_neg (hdiffers (by simp)), if_neg (by simp)]
      simp
  | cons p before ih =>
    obtain ⟨hp, hequal⟩ := List.forall_mem_cons.mp hbefore
    have hrest : before ++ (a, b) :: after ≠ [] := by simp
    rw [List.cons_append, lexicographic, if_pos hp, ih hequal]
    exact hrest

end

/-- Two rows with values have a deciding place. -/
lemma exists_decided {pairs : List (Value × Value)} (h : pairs ≠ []) :
    ∃ before a b after, Decided pairs before a b after := by
  induction pairs with
  | nil => exact absurd rfl h
  | cons p rest ih =>
    by_cases hdiffers : rest ≠ [] → compare p.1 .eq p.2 ≠ some true
    · exact ⟨[], p.1, p.2, rest, rfl, by simp, hdiffers⟩
    · obtain ⟨hrest, hequal⟩ : rest ≠ [] ∧ compare p.1 .eq p.2 = some true := by
        simpa using hdiffers
      obtain ⟨before, a, b, after, hd⟩ := ih hrest
      exact ⟨p :: before, a, b, after, by rw [hd.eq_append, List.cons_append],
        List.forall_mem_cons.mpr ⟨hequal, hd.equal_before⟩, hd.differs⟩

end Truth

/-! ### Comparisons that fail -/

/-- The values of two rows, side by side. -/
lemma pairUp_values : ∀ vs ws : List Value,
    pairUp (vs.map .ok) (ws.map .ok) = .ok (vs.zip ws)
  | [], _ => rfl
  | _ :: _, [] => rfl
  | v :: vs, w :: ws => by
    rw [List.map_cons, List.map_cons, pairUp_cons, pairUp_values vs ws]
    rfl

/-- Values of rows of one width come in pairs unless one is missing. -/
lemma pairUp_eq_error_iff : ∀ as bs : List Outcome, as.length = bs.length →
    ((∃ e, pairUp as bs = .error e) ↔ ∃ o ∈ as ++ bs, ∃ e, o = .error e)
  | [], [], _ => ⟨nofun, by simp⟩
  | [], _ :: _, hlen => by simp at hlen
  | _ :: _, [], hlen => by simp at hlen
  | a :: as, b :: bs, hlen => by
    have ih := pairUp_eq_error_iff as bs (by simpa using hlen)
    have hmem : (∃ o ∈ (a :: as) ++ b :: bs, ∃ e, o = .error e) ↔
        (∃ e, a = .error e) ∨ (∃ e, b = .error e) ∨ ∃ o ∈ as ++ bs, ∃ e, o = .error e := by
      simp only [List.cons_append, List.mem_cons, List.mem_append, or_and_right, exists_or,
        exists_eq_left]
      exact or_congr_right or_left_comm
    rw [hmem, ← ih, pairUp_cons]
    cases a with
    | error e => simp
    | ok v =>
      cases b with
      | error e => simp
      | ok w => cases pairUp as bs <;> simp [pure, Except.pure]

namespace Condition

/-- A comparison of rows fails exactly if their widths differ or a value is missing. -/
lemma eval_rowCompare_eq_error_iff (columns : Bindings) (l : Row) (op : CompareOp) (r : Row) :
    (∃ e, (rowCompare l op r).eval columns = .error e) ↔
      l.length ≠ r.length ∨ ∃ x ∈ l ++ r, ∃ e, x.eval columns = .error e := by
  have heval : (rowCompare l op r).eval columns = do
      checkOutcomes (evalEach columns l) (evalEach columns r)
      return Truth.compareRows op (← pairUp (evalEach columns l) (evalEach columns r)) := rfl
  rw [heval, checkOutcomes, length_evalEach, length_evalEach]
  by_cases hlen : l.length = r.length
  · have hpairs := pairUp_eq_error_iff (evalEach columns l) (evalEach columns r)
      (by simpa using hlen)
    have hmem : (∃ o ∈ evalEach columns l ++ evalEach columns r, ∃ e, o = .error e) ↔
        ∃ x ∈ l ++ r, ∃ e, x.eval columns = .error e := by
      simp only [evalEach_eq_map, ← List.map_append, List.mem_map, exists_exists_and_eq_and]
    rw [if_pos hlen, ← hmem, ← hpairs]
    cases pairUp (evalEach columns l) (evalEach columns r) <;> simp [hlen, pure, Except.pure]
  · simp [hlen]

/-- **Comparison of rows.** It fails exactly if the widths differ or a value is missing. Rows with
values are equal if all their values are, and are ordered as the values at the deciding place. -/
theorem eval_rowCompare_decided (columns : Bindings) (l r : Row) :
    (∀ op, (∃ e, (rowCompare l op r).eval columns = .error e) ↔
      l.length ≠ r.length ∨ ∃ x ∈ l ++ r, ∃ e, x.eval columns = .error e) ∧
    ∀ vs ws : List Value, vs.length = ws.length → vs ≠ [] →
      l.map (Expr.eval columns) = vs.map .ok → r.map (Expr.eval columns) = ws.map .ok →
      (rowCompare l .eq r).eval columns =
        .ok (Truth.all (List.zipWith (fun v w => Truth.compare v .eq w) vs ws)) ∧
      (rowCompare l .ne r).eval columns =
        .ok (Truth.all (List.zipWith (fun v w => Truth.compare v .eq w) vs ws)).not ∧
      (∃ before a b after, Truth.Decided (vs.zip ws) before a b after) ∧
      ∀ before a b after, Truth.Decided (vs.zip ws) before a b after →
        ∀ op, op.isOrdering = true → (rowCompare l op r).eval columns =
          .ok (Truth.compare a (if after = [] then op else op.strict) b) := by
  refine ⟨fun op => eval_rowCompare_eq_error_iff columns l op r, ?_⟩
  intro vs ws hwidth hne hl hr
  have heval (op : CompareOp) :
      (rowCompare l op r).eval columns = .ok (Truth.compareRows op (vs.zip ws)) := by
    change Truth.rowCompare (evalEach columns l) op (evalEach columns r) = _
    rw [Truth.rowCompare, evalEach_eq_map, evalEach_eq_map, hl, hr, checkOutcomes,
      List.length_map, List.length_map, if_pos hwidth, pairUp_values]
    rfl
  have hequal : Truth.rowsEqual (vs.zip ws) =
      Truth.all (List.zipWith (fun v w => Truth.compare v .eq w) vs ws) := by
    rw [Truth.rowsEqual, List.zip, List.map_zipWith]
  have hpairs : vs.zip ws ≠ [] := by
    rw [← List.length_pos_iff, List.length_zip, ← hwidth, Nat.min_self, List.length_pos_iff]
    exact hne
  refine ⟨?_, ?_, Truth.exists_decided hpairs, fun before a b after hd op hop => ?_⟩
  · rw [heval, ← hequal]
    rfl
  · rw [heval, ← hequal]
    rfl
  · rw [heval, Truth.compareRows_of_decided hop hd]

/-- `(1, NULL, 3) <= (1, 2, 0)` is unknown: the first place is passed, and the second one decides.
-/
theorem eval_rowCompare_decided_unknown :
    (rowCompare [.number 1, .null, .number 3] .le [.number 1, .number 2, .number 0]).eval .none_ =
      .ok (Truth.compare .null .lt (.ofNat 2)) ∧ Truth.compare .null .lt (.ofNat 2) = none := by
  have hd : Truth.Decided
      ([.ofNat 1, .null, .ofNat 3].zip [.ofNat 1, .ofNat 2, .ofNat 0])
      [(.ofNat 1, .ofNat 1)] .null (.ofNat 2) [(.ofNat 3, .ofNat 0)] :=
    ⟨rfl, by decide, by decide⟩
  have hvalues := (eval_rowCompare_decided .none_ [.number 1, .null, .number 3]
    [.number 1, .number 2, .number 0]).2 [.ofNat 1, .null, .ofNat 3]
    [.ofNat 1, .ofNat 2, .ofNat 0] rfl (by simp) rfl rfl
  exact ⟨hvalues.2.2.2 _ _ _ _ hd .le rfl, rfl⟩

end Condition

end Polysql

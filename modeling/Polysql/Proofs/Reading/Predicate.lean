import Polysql.Proofs.Reading.Operand
/-!
The trees of predicates. They are operands of every junction (`Tree.Leaf`): comparisons, bounds,
memberships, tests for NULL, negations, and conditions in parentheses. A chain of them with one kind
of junction between them fits (`Tree.fits_chain`).
-/

namespace Polysql

namespace Tree

/-- The tree fits, and is the text of a condition. -/
structure IsCondition (p : Precedence) (q : Bool) (t : Tree) (c : Condition) : Prop where
  fits : t.Fits p
  means : t.Means q (Condition.eval · c)

/-- The tree can be an operand of a junction, and is the text of a condition. -/
structure Leaf (p : Precedence) (q : Bool) (t : Tree) (c : Condition) : Prop
    extends IsCondition p q t c where
  above : t.Above p 3
  closed : t.awaitsUpper = false

variable {p : Precedence} {q : Bool}

lemma Leaf.congr {t : Tree} {c d : Condition} (h : t.Leaf p q c)
    (hcd : ∀ columns, c.eval columns = d.eval columns) : t.Leaf p q d :=
  { h with means := h.means.congr hcd }

/-! ### Comparisons -/

/-- A predicate with its operator and two operands. -/
lemma Tight.binary {l r : Tree} (op : Operator) (hl : l.Tight p) (hr : r.Fits p)
    (habove : r.Above p 5) (hop : op.level p = 5) (hupper : op ≠ .upper) :
    (binary op l r).Fits p ∧ (Tree.binary op l r).Above p 3 := by
  have hand : op ≠ .and := by
    rintro rfl
    cases hop
  have happly : op ≠ .apply := by
    rintro rfl
    cases hop
  have hleft : l.LeftOf p op := hl.leftOf (by omega)
  exact ⟨fits_binary hl.fits hr hleft (by rwa [hop]) hand hupper happly, by omega,
    hl.above.mono (by omega), habove.mono (by omega)⟩

lemma leaf_compare {l r : Tree} {a b : Row} (hl : l.IsRow p q a) (op : CompareOp)
    (hr : r.IsRow p q b) : (binary (.compare op) l r).Leaf p q (.rowCompare a op b) := by
  obtain ⟨hfits, habove⟩ :=
    hl.tight.binary (.compare op) hr.tight.fits (hr.tight.above.mono (by omega)) rfl (by simp)
  obtain ⟨a', ha', hagreea⟩ := hl.means
  obtain ⟨b', hb', hagreeb⟩ := hr.means
  refine ⟨⟨hfits, .rowCompare a' op b', ?_, fun columns hcovers => ?_⟩, habove, hr.tight.closed⟩
  · rw [condition?, ha', hb']
    rfl
  · have hevala := hagreea columns hcovers
    have hevalb := hagreeb columns hcovers
    simp only at hevala hevalb
    simp only [Condition.eval, hevala, hevalb]

/-- The number that a digit stands for is equal to one, or to another. -/
lemma leaf_digits {s : String} {n : Nat} (hs : s ∉ operatorWords)
    (hn : (word s).expr? = some (.number n)) {c : Condition}
    (hc : ∀ columns, (Condition.compare (.number 1) .eq (.number n)).eval columns =
      c.eval columns) :
    (binary (.compare .eq) (word "1") (word s)).Leaf p q c := by
  have hone : (word "1").IsValue p q (.number 1) :=
    ⟨tight_word (by decide), .number 1, rfl, fun _ _ => rfl⟩
  have hdigit : (word s).IsValue p q (.number n) :=
    ⟨tight_word hs, .number n, hn, fun _ _ => rfl⟩
  refine (leaf_compare hone.row .eq hdigit.row).congr ?_
  exact fun columns => (eval_rowCompare_singleton columns _ _ _).trans (hc columns)

lemma leaf_always : (word "TRUE").Leaf p q .always ∧
    (binary (.compare .eq) (word "1") (word "1")).Leaf p q .always :=
  ⟨⟨⟨(by decide : "TRUE" ∉ operatorWords), .always, rfl, fun _ _ => rfl⟩, trivial, rfl⟩,
    leaf_digits (by decide) rfl fun _ => rfl⟩

lemma leaf_never : (word "FALSE").Leaf p q .never ∧
    (binary (.compare .eq) (word "1") (word "0")).Leaf p q .never :=
  ⟨⟨⟨(by decide : "FALSE" ∉ operatorWords), .never, rfl, fun _ _ => rfl⟩, trivial, rfl⟩,
    leaf_digits (by decide) rfl fun _ => rfl⟩

/-! ### Other predicates -/

/-- What stands after `IS` in a test for NULL. -/
def null (negate : Bool) : Tree :=
  if negate then unary .not (word "NULL") else word "NULL"

lemma fits_null (negate : Bool) : (null negate).Fits p := by
  have hword : (word "NULL").Fits p := by
    rw [Fits]
    decide
  cases negate with
  | false => exact hword
  | true => exact ⟨hword, trivial⟩

lemma leaf_isNull {t : Tree} {row : Row} (ht : t.IsRow p q row) (negate : Bool) :
    (binary .is t (null negate)).Leaf p q (.rowIsNull row negate) := by
  have hnull : (null negate).Above p 5 ∧ (null negate).awaitsUpper = false := by
    cases negate <;> exact ⟨trivial, rfl⟩
  obtain ⟨hfits, habove⟩ := ht.tight.binary .is (fits_null negate) hnull.1 rfl (by simp)
  obtain ⟨row', hrow', hagree⟩ := ht.means
  refine ⟨⟨hfits, .rowIsNull row' negate, ?_, fun columns hcovers => ?_⟩, habove, hnull.2⟩
  · rw [condition?, hrow']
    cases negate <;> rfl
  · have heval := hagree columns hcovers
    simp only at heval
    simp only [Condition.eval, heval]

lemma leaf_member {t : Tree} {ts : List Tree} {row : Row} {list : List Row}
    (ht : t.IsRow p q row) (hlist : List.Forall₂ (IsRow p q) ts list) (negate : Bool) :
    (binary (.isIn negate) t (group ts)).Leaf p q (.rowInList row list negate) := by
  have hgroup : (group ts).Tight p := tight_group (allFit_of_isRow hlist)
  obtain ⟨hfits, habove⟩ :=
    ht.tight.binary (.isIn negate) hgroup.fits (hgroup.above.mono (by omega)) rfl (by simp)
  obtain ⟨row', hrow', hagree⟩ := ht.means
  obtain ⟨list', hlist', hagreelist⟩ := mapM_row? hlist
  refine ⟨⟨hfits, .rowInList row' list' negate, ?_, fun columns hcovers => ?_⟩, habove, rfl⟩
  · rw [condition?, hrow']
    exact congrArg (Option.map fun list => Condition.rowInList row' list negate) hlist'
  · have heval := hagree columns hcovers
    have hevallist := hagreelist columns hcovers
    simp only at heval hevallist
    simp only [Condition.eval, heval, hevallist]

/-- The lower bound of a `BETWEEN`. -/
def lowerBound (symmetric : Bool) (low : Tree) : Tree :=
  if symmetric then unary .symmetric low else low

/-- The text of bounds is told apart from that of bounds in either order: no row starts with
`SYMMETRIC`. -/
lemma bounds?_lower {t low : Tree} {row lows high : Row} (hrow : t.row? = some row)
    (hlow : low.row? = some lows) (negate symmetric : Bool) :
    (binary (.lower negate) t (lowerBound symmetric low)).bounds? high =
      some (.rowBetween row lows high negate symmetric) := by
  cases symmetric with
  | true => simp [lowerBound, bounds?, hrow, hlow]
  | false =>
    rw [lowerBound, if_neg Bool.false_ne_true, bounds?, hrow, hlow]
    · rfl
    · rintro u rfl
      cases hlow

lemma leaf_between {t low high : Tree} {row lows highs : Row} (ht : t.IsRow p q row)
    (hlow : low.IsRow p q lows) (hhigh : high.IsRow p q highs) (negate symmetric : Bool) :
    (binary .upper (binary (.lower negate) t (lowerBound symmetric low)) high).Leaf p q
      (.rowBetween row lows highs negate symmetric) := by
  -- the word `SYMMETRIC` is a sign in front of the low bound
  have hbound : (lowerBound symmetric low).Fits p ∧ (lowerBound symmetric low).Above p 5 := by
    cases symmetric with
    | false => exact ⟨hlow.tight.fits, hlow.tight.above.mono (by omega)⟩
    | true =>
      exact ⟨⟨hlow.tight.fits, hlow.tight.above.mono (by decide)⟩,
        hlow.tight.above.mono (by omega)⟩
  -- the low bound takes the value first, and the high bound then takes both
  obtain ⟨hfits, habove⟩ := ht.tight.binary (.lower negate) hbound.1 hbound.2 rfl (by simp)
  obtain ⟨row', hrow', hagree⟩ := ht.means
  obtain ⟨lows', hlows', hagreelow⟩ := hlow.means
  obtain ⟨highs', hhighs', hagreehigh⟩ := hhigh.means
  have hhigh5 : high.Above p 5 := hhigh.tight.above.mono (by omega)
  refine
    { fits := ⟨hfits, hhigh.tight.fits, Nat.le_refl 5, hhigh5, by simp, fun _ => rfl, by simp⟩
      above := ⟨(by decide : 3 < 5), habove, hhigh5.mono (by omega)⟩
      closed := hhigh.tight.closed
      means := ⟨.rowBetween row' lows' highs' negate symmetric, ?_, fun columns hcovers => ?_⟩ }
  · rw [condition?, hhighs']
    exact bounds?_lower hrow' hlows' negate symmetric
  · have heval := hagree columns hcovers
    have hevallow := hagreelow columns hcovers
    have hevalhigh := hagreehigh columns hcovers
    simp only at heval hevallow hevalhigh
    simp only [Condition.eval, heval, hevallow, hevalhigh]

/-! ### Conditions in parentheses -/

lemma IsCondition.group {t : Tree} {c : Condition} (h : t.IsCondition p q c) :
    (group [t]).Leaf p q c :=
  ⟨⟨⟨h.fits, trivial⟩, h.means⟩, trivial, rfl⟩

lemma IsCondition.not {t : Tree} {c : Condition} (h : t.IsCondition p q c) :
    (unary .not (Tree.group [t])).Leaf p q (.not c) := by
  obtain ⟨c', hc', hagree⟩ := h.means
  refine ⟨⟨⟨⟨h.fits, trivial⟩, trivial⟩, .not c', ?_, fun columns hcovers => ?_⟩, trivial, rfl⟩
  · rw [condition?, condition?, conditionOfGroup?, hc']
    rfl
  · have heval := hagree columns hcovers
    simp only at heval
    simp only [Condition.eval_not, heval]

/-! ### Junctions -/

/-- A predicate can be the first operand of a junction. -/
lemma Leaf.leftOf {t : Tree} {c : Condition} (h : t.Leaf p q c) (j : Junction) :
    t.LeftOf p j.operator := by
  have hlevel : j.operator.level p ≤ 3 := by
    cases j <;> simp [Junction.operator, Operator.level]
  cases t with
  | binary op l r =>
    have habove : 3 < op.level p := h.above.1
    rw [LeftOf]
    omega
  | unary q t =>
    have hq : 4 ≤ q.level := by
      cases q <;> simp [Unary.level]
    rw [LeftOf]
    omega
  | _ => trivial

/-- Operands with one kind of junction between them fit from the left. -/
lemma fits_chain {j : Junction} {ts : List Tree} {cs : List Condition}
    (hts : List.Forall₂ (Leaf p q) ts cs) : ∀ {t : Tree}, t.Fits p → t.LeftOf p j.operator →
      t.awaitsUpper = false → (chain j.operator t ts).Fits p := by
  induction hts with
  | nil => exact fun ht _ _ => ht
  | @cons u c us cs hu _ ih =>
    intro t ht hleft hclosed
    have hlevel : j.operator.level p ≤ 3 := by
      cases j <;> simp [Junction.operator, Operator.level]
    have hfits : (binary j.operator t u).Fits p := by
      refine ⟨ht, hu.fits, hleft, hu.above.mono hlevel, fun _ => hclosed, fun h => ?_, fun h => ?_⟩
      · cases j <;> cases h
      · cases j <;> cases h
    have hbinary : (binary j.operator t u).awaitsUpper = false := by
      rw [awaitsUpper_binary (by omega : j.operator.level p < 5)]
      exact hu.closed
    exact ih hfits (Nat.le_refl _) hbinary

end Tree

end Polysql

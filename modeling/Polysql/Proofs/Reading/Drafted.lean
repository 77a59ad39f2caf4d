import Polysql.Draft.Statement
import Polysql.Proofs.Evaluation.Row
import Polysql.Proofs.Reading.Fragment
import Polysql.Proofs.Reading.Rank
/-!
The conditions that are read are drafted in the first place (`drafted_condition`): all that a
condition can be refused for is a constant that the engine has no literal for. Every detour is taken
at the level below, as its rank is lower. Between an operand and a word or a sign there is always a
blank or a parenthesis, so the tokens of the draft are those of its text
(`tokens_joined_condition`).
-/

namespace Polysql

/-- A column that has a name, or a constant that can be written at the place. -/
inductive Scope.Writes (s : Scope) : Expr → Prop
  | constant {c : Constant} (h : (Draft.constant s c).error? = none) : Writes s (.constant c)
  | field {n : Name} (h : n.parts ≠ []) (type : DataType) : Writes s (.field n type)

namespace Scope.Writes

variable {s : Scope} {e : Expr}

lemma isOperand (h : s.Writes e) : e.IsOperand := by
  cases h with
  | @constant c => exact .constant c
  | field h type => exact .field h type

lemma operandOf (h : s.Writes e) (junction? : Option Junction) :
    (s.operandOf junction?).Writes e := by
  cases h with
  | constant h => exact .constant h
  | field h type => exact .field h type

lemma rank_eq (h : s.Writes e) : e.rank = 1 := by
  cases h <;> rfl

end Scope.Writes

namespace Draft

lemma clear_constant {s : Scope} {c : Constant} (h : (constant s c).error? = none) :
    (constant s c).Clear := by
  refine ⟨h, ?_⟩
  rw [constant]
  split
  · cases s.dialect.literal c.type c.value <;> rfl
  · rfl

lemma Clear.notIf_append {d : Draft} (h : d.Clear) (negate : Bool) :
    (notIf negate ++ d : Draft).Clear := by
  have hcloses : closes (notIf negate) = true := by
    cases negate <;> decide
  exact (clear_text_append hcloses).mpr h

lemma Clear.isNull {d : Draft} (h : d.Clear) (negate : Bool) :
    (d ++ " IS " ++ notIf negate ++ "NULL" : Draft).Clear := by
  rw [append_assoc]
  exact h.around (by decide) (by decide) ((clear_text "NULL").notIf_append negate)

lemma Clear.between {d low high : Draft} (h : d.Clear) (hlow : low.Clear) (hhigh : high.Clear)
    (negate symmetric : Bool) :
    (d ++ Writers.betweenWords negate symmetric ++ low ++ " AND " ++ high : Draft).Clear := by
  have hwords : opens (Writers.betweenWords negate symmetric) = true ∧
      closes (Writers.betweenWords negate symmetric) = true := by
    cases negate <;> cases symmetric <;> decide
  exact (h.around hwords.1 hwords.2 hlow).around (by decide) (by decide) hhigh

lemma Clear.inList {row rows : Draft} (hrow : row.Clear) (hrows : rows.Clear) (negate : Bool) :
    (row ++ " " ++ notIf negate ++ "IN (" ++ rows ++ ")" : Draft).Clear := by
  have hlist : ("IN (" ++ rows ++ ")" : Draft).Clear := hrows.enclosed (by decide) (by decide)
  have h : (row ++ " " ++ (notIf negate ++ ("IN (" ++ rows ++ ")")) : Draft).Clear :=
    hrow.around (by decide) (by decide) (hlist.notIf_append negate)
  simpa only [append_assoc] using h

lemma Clear.compare {a b : Draft} (ha : a.Clear) (op : CompareOp) (hb : b.Clear) :
    (a ++ " " ++ op.sign ++ " " ++ b : Draft).Clear :=
  (ha.around (by decide) (by decide) (clear_text op.sign)).around (by decide) (by decide) hb

lemma clear_commas_map {α : Type} {draft : α → Draft} {as : List α}
    (h : ∀ a ∈ as, (draft a).Clear) : (commas (as.map draft)).Clear :=
  clear_separated (by decide) (by decide) (List.forall_mem_map.mpr h)

end Draft

namespace Condition

lemma Readable.mono {P Q : Expr → Prop} (hPQ : ∀ e, P e → Q e) {c : Condition}
    (hc : c.Readable P) : c.Readable Q := by
  have hrow {r : Row} (hr : IsRowOf P r) : IsRowOf Q r := fun e he => hPQ e (hr e he)
  induction hc with
  | always => exact .always
  | never => exact .never
  | compare ha op hb => exact .compare (hPQ _ ha) op (hPQ _ hb)
  | between he hlow hhigh negate symmetric =>
    exact .between (hPQ _ he) (hPQ _ hlow) (hPQ _ hhigh) negate symmetric
  | isNull he negate => exact .isNull (hPQ _ he) negate
  | rowCompare hl op hr hwidth => exact .rowCompare (hrow hl) op (hrow hr) hwidth
  | rowInList hr hlist hwidth negate =>
    exact .rowInList (hrow hr) (fun r hr => hrow (hlist r hr)) hwidth negate
  | rowIsNull hr negate => exact .rowIsNull (hrow hr) negate
  | rowBetween hr hlow hhigh hwidth negate symmetric =>
    exact .rowBetween (hrow hr) (hrow hlow) (hrow hhigh) hwidth negate symmetric
  | not _ ih => exact .not ih
  | and hlen _ ih => exact .and hlen ih
  | or hlen _ ih => exact .or hlen ih
  | xor _ _ ihc ihd => exact .xor ihc ihd

end Condition

namespace Writers

/-- The writers draft what is read, up to a rank, and no fixed text runs into another. -/
structure Drafts (w : Writers) (n : Nat) : Prop where
  expr {s : Scope} {e : Expr} (he : s.Writes e) (hn : 1 ≤ n) : (w.expr s e).Clear
  condition {s : Scope} {c : Condition} (hc : c.Readable s.Writes) (hn : c.rank ≤ n) :
    (w.condition s c).Clear

namespace Drafts

variable {w : Writers} {n : Nat} (hw : w.Drafts n) {s : Scope}
include hw

lemma row {r : Row} (hr : IsRowOf s.Writes r) (hn : 1 ≤ n) : (w.row s r).Clear := by
  have hexprs : (w.exprs s r).Clear :=
    Draft.clear_commas_map fun e he => hw.expr (hr e he) hn
  exact hexprs.enclosed (by decide) (by decide)

lemma parenthesized {c : Condition} (hc : c.Readable s.Writes) (hn : c.rank ≤ n) :
    (w.parenthesized s c).Clear := by
  have hinner := hw.condition (hc.mono fun e he => he.operandOf none) hn
  exact hinner.enclosed (by decide) (by decide)

lemma junctionOperand (j : Junction) {c : Condition} (hc : c.Readable s.Writes)
    (hn : c.rank ≤ n) : (w.junctionOperand s j c).Clear := by
  rw [Writers.junctionOperand]
  split
  · exact hw.parenthesized hc hn
  · exact hw.condition (hc.mono fun e he => he.operandOf _) hn

lemma detour {c : Condition} (hc : c.Readable s.Writes) (hn : c.rank ≤ n) :
    (w.detour s c).Clear := by
  rw [Writers.detour]
  split
  · split
    · exact hw.parenthesized hc hn
    · exact hw.condition hc hn
  · exact hw.condition hc hn

lemma detourOf {result : Except Error Condition} (hok : ∃ c, result = .ok c)
    (hresult : ∀ c, result = .ok c → c.Readable s.Writes ∧ c.rank ≤ n) :
    (w.detourOf s result).Clear := by
  obtain ⟨c, rfl⟩ := hok
  obtain ⟨hc, hn⟩ := hresult c rfl
  exact hw.detour hc hn

/-! ### Predicates -/

omit hw in
lemma clear_constantCondition (s : Scope) (b : Bool) : (constantCondition s b).Clear := by
  rw [constantCondition]
  cases s.has Feature.booleanValues <;> cases b <;> exact Draft.clear_text _

lemma compare {a b : Expr} (ha : s.Writes a) (op : CompareOp) (hb : s.Writes b) (hn : 1 ≤ n) :
    (w.draftCondition s (.compare a op b)).Clear :=
  (hw.expr ha hn).compare op (hw.expr hb hn)

lemma isNull {e : Expr} (he : s.Writes e) (negate : Bool) (hn : 1 ≤ n) :
    (w.draftCondition s (.isNull e negate)).Clear :=
  (hw.expr he hn).isNull negate

lemma between {e low high : Expr} (he : s.Writes e) (hlow : s.Writes low) (hhigh : s.Writes high)
    (negate symmetric : Bool) (hn : (Condition.between e low high negate symmetric).rank ≤ n + 1) :
    (w.between s e low high negate symmetric).Clear := by
  have hpos : 1 ≤ n := by
    rw [Condition.rank_between, he.rank_eq] at hn
    split at hn <;> omega
  have hnative : (w.expr s e ++ betweenWords negate symmetric ++ w.expr s low ++ " AND " ++
      w.expr s high).Clear :=
    (hw.expr he hpos).between (hw.expr hlow hpos) (hw.expr hhigh hpos) negate symmetric
  dsimp only [Writers.between]
  split
  · exact hnative
  · split
    next c hexpand =>
      have hrank := Condition.rank_of_expandBetween hexpand
      exact hw.detour (Condition.readable_of_expandBetween he hlow hhigh hexpand) (by omega)
    next => exact hnative

lemma rowCompare {l r : Row} (hl : IsRowOf s.Writes l) (op : CompareOp) (hr : IsRowOf s.Writes r)
    (hwidth : l.length = r.length) (hn : (Condition.rowCompare l op r).rank ≤ n + 1) :
    (w.rowCompare s l op r).Clear := by
  have hpos : 1 ≤ n := by
    rw [Condition.rank_rowCompare] at hn
    omega
  rw [Writers.rowCompare]
  split
  · exact (hw.row hl hpos).compare op (hw.row hr hpos)
  · have hok : ∃ c, Condition.expandRowCompare l op r = .ok c := by
      rw [Condition.expandRowCompare, checkWidth_eq_ok.mpr hwidth]
      exact ⟨_, rfl⟩
    refine hw.detourOf hok fun c hc => ?_
    have hrank := Condition.rank_of_expandRowCompare hc
    exact ⟨Condition.readable_of_expandRowCompare hl hr hc, by omega⟩

lemma rowInList {row : Row} {list : List Row} (hrow : IsRowOf s.Writes row)
    (hlist : ∀ r ∈ list, IsRowOf s.Writes r) (hwidth : ∀ r ∈ list, row.length = r.length)
    (negate : Bool) (hn : (Condition.rowInList row list negate).rank ≤ n + 1) :
    (w.rowInList s row list negate).Clear := by
  have hpos : 1 ≤ n := by
    rw [Condition.rank_rowInList] at hn
    omega
  rw [Writers.rowInList]
  -- an empty list, a list that the engine takes, and one that is spelled out row by row
  split
  · cases negate with
    | false => exact hw.condition .never (Nat.le_trans (Nat.le_of_eq Condition.rank_never) hpos)
    | true => exact hw.condition .always (Nat.le_trans (Nat.le_of_eq Condition.rank_always) hpos)
  · split
    · have hrows : (Draft.commas (list.map (w.row s))).Clear :=
        Draft.clear_commas_map fun r hr => hw.row (hlist r hr) hpos
      exact (hw.row hrow hpos).inList hrows negate
    · have hok : ∃ c, Condition.expandRowIn row list negate = .ok c := by
        rw [Condition.expandRowIn, forM_checkWidth_eq_ok.mpr hwidth]
        exact ⟨_, rfl⟩
      refine hw.detourOf hok fun c hc => ?_
      have hrank := Condition.rank_of_expandRowIn hc
      exact ⟨Condition.readable_of_expandRowIn hrow hlist hc, by omega⟩

lemma rowIsNull {row : Row} (hrow : IsRowOf s.Writes row) (negate : Bool)
    (hn : (Condition.rowIsNull row negate).rank ≤ n + 1) :
    (w.rowIsNull s row negate).Clear := by
  have hrank := Condition.rank_expandRowIsNull row negate
  have hpos : 1 ≤ n := by
    rw [Condition.rank_rowIsNull] at hn
    omega
  rw [Writers.rowIsNull]
  split
  · exact (hw.row hrow hpos).isNull negate
  · exact hw.detour (Condition.readable_expandRowIsNull hrow negate) (by omega)

lemma rowBetween {row low high : Row} (hrow : IsRowOf s.Writes row) (hlow : IsRowOf s.Writes low)
    (hhigh : IsRowOf s.Writes high)
    (hwidth : row.length = low.length ∧ row.length = high.length) (negate symmetric : Bool)
    (hn : (Condition.rowBetween row low high negate symmetric).rank ≤ n + 1) :
    (w.rowBetween s row low high negate symmetric).Clear := by
  have hpos : 1 ≤ n := by
    rw [Condition.rank_rowBetween] at hn
    omega
  dsimp only [Writers.rowBetween]
  split
  · exact (hw.row hrow hpos).between (hw.row hlow hpos) (hw.row hhigh hpos) negate symmetric
  · have hok : ∃ c, Condition.expandRowBetween row low high negate symmetric = .ok c := by
      rw [Condition.expandRowBetween, checkWidth_eq_ok.mpr hwidth.1,
        checkWidth_eq_ok.mpr hwidth.2]
      exact ⟨_, rfl⟩
    refine hw.detourOf hok fun c hc => ?_
    have hrank := Condition.rank_of_expandRowBetween hc
    exact ⟨Condition.readable_of_expandRowBetween hrow hlow hhigh hc, by omega⟩

/-! ### Junctions -/

lemma junction (j : Junction) {ifEmpty : Condition} (hempty : ifEmpty.Readable s.Writes)
    (hone : ifEmpty.rank = 1) {cs : List Condition} (hcs : ∀ c ∈ cs, c.Readable s.Writes)
    (hn : rankOfConditions cs ≤ n) : (w.junction s j ifEmpty cs).Clear := by
  have hrank {c : Condition} (hc : c ∈ cs) : c.rank ≤ n :=
    Nat.le_trans (rank_le_rankOfConditions hc) hn
  rw [Writers.junction.eq_def]
  split
  · rw [rankOfConditions_nil] at hn
    exact hw.condition hempty (by omega)
  · exact hw.condition (hcs _ (List.mem_singleton_self _)) (hrank (List.mem_singleton_self _))
  · have hseparator : opens j.separator = true ∧ closes j.separator = true := by
      cases j <;> decide
    exact Draft.clear_separated hseparator.1 hseparator.2 (List.forall_mem_map.mpr fun c hc =>
      hw.junctionOperand j (hcs c hc) (hrank hc))

lemma xor {c d : Condition} (hc : c.Readable s.Writes) (hd : d.Readable s.Writes)
    (hn : (Condition.xor c d).rank ≤ n + 1) : (w.xor s c d).Clear := by
  have hrank := Condition.rank_expandXor c d
  rw [Writers.xor]
  split
  · rw [Condition.rank_xor] at hn
    have hc' := hw.junctionOperand .xor hc (by omega)
    have hd' := hw.junctionOperand .xor hd (by omega)
    exact hc'.around (by decide) (by decide) hd'
  · exact hw.detour (hc.expandXor hd) (by omega)

/-- The draft of a condition, from the level below. -/
lemma draftCondition {c : Condition} (hc : c.Readable s.Writes) (hn : c.rank ≤ n + 1) :
    (w.draftCondition s c).Clear := by
  cases hc with
  | always => exact clear_constantCondition s true
  | never => exact clear_constantCondition s false
  | compare ha op hb =>
    rw [Condition.rank_compare, ha.rank_eq] at hn
    exact hw.compare ha op hb (by omega)
  | between he hlow hhigh negate symmetric => exact hw.between he hlow hhigh negate symmetric hn
  | isNull he negate =>
    rw [Condition.rank_isNull, he.rank_eq] at hn
    exact hw.isNull he negate (by omega)
  | rowCompare hl op hr hwidth => exact hw.rowCompare hl op hr hwidth hn
  | rowInList hrow hlist hwidth negate => exact hw.rowInList hrow hlist hwidth negate hn
  | rowIsNull hrow negate => exact hw.rowIsNull hrow negate hn
  | rowBetween hrow hlow hhigh hwidth negate symmetric =>
    exact hw.rowBetween hrow hlow hhigh hwidth negate symmetric hn
  | not hc =>
    rw [Condition.rank_not] at hn
    exact (Draft.clear_text_append (by decide)).mpr (hw.parenthesized hc (by omega))
  | and _ hcs =>
    rw [Condition.rank_and] at hn
    exact hw.junction .and .always Condition.rank_always hcs (by omega)
  | or _ hcs =>
    rw [Condition.rank_or] at hn
    exact hw.junction .or .never Condition.rank_never hcs (by omega)
  | xor hc hd => exact hw.xor hc hd hn

omit hw in
lemma draftExpr {e : Expr} (he : s.Writes e) : (w.draftExpr s e).Clear := by
  cases he with
  | constant h => exact Draft.clear_constant h
  | @field n _ type => exact Draft.clear_column s n

end Drafts

/-- The writers of a level draft what is read, up to the rank that is the level. -/
theorem drafts_level (n : Nat) : (level n).Drafts n := by
  induction n with
  | zero =>
    exact
      { expr := fun _ hn => absurd hn (Nat.not_succ_le_zero 0)
        condition := fun {_ c} _ hn => absurd (Nat.le_trans c.one_le_rank hn) (by decide) }
  | succ n ih =>
    exact
      { expr := fun he _ => Drafts.draftExpr he
        condition := fun hc hn => ih.draftCondition hc hn }

end Writers

variable {n : Nat} {s : Scope} {c : Condition}

/-- **Drafting conditions.** A readable condition is drafted from its rank on, if its constants can
be written. -/
theorem drafted_condition (hc : c.Readable s.Writes) (hn : c.rank ≤ n) :
    ((Writers.level n).condition s c).error? = none :=
  ((Writers.drafts_level n).condition hc hn).error?

/-- **The text of conditions.** The tokens of a readable condition are those of its text. -/
theorem tokens_joined_condition (hc : c.Readable s.Writes) (hn : c.rank ≤ n) :
    ((Writers.level n).condition s c).joined.tokens = ((Writers.level n).condition s c).tokens :=
  (Draft.tokens_joined_iff _).mpr ((Writers.drafts_level n).condition hc hn).glued

end Polysql

import Polysql.Draft.Statement
import Polysql.Proofs.Place.Expr
/-!
Conditions, tables and queries at another place. If the parts of a query can be moved, so can the
query (`Writers.Moves.draftCondition`, `Writers.Moves.draftTable`, `Writers.Moves.draftSelect`), and
hence the writers of all levels move whatever their level is high enough for
(`Writers.moves_level`).
-/

namespace Polysql

namespace Draft

variable {m : Move} (s : Scope)

@[simp] lemma draft_direction (d : Dialect) (direction? : Option Direction) :
    m.draft d (direction direction?) = direction direction? := by
  rw [direction.eq_def]
  split <;> simp

@[simp] lemma draft_tableAlias (name : Name) (columns : List Name) :
    m.draft s.dialect (tableAlias s name columns) = tableAlias (m.scope s) name columns := by
  simp [tableAlias]

@[simp] lemma draft_namedTable (t : NamedTable) :
    m.draft s.dialect (namedTable s t) = namedTable (m.scope s) t := by
  have halias : m.draft s.dialect (.ofOption (fun a => tableAlias s a []) t.alias?) =
      .ofOption (fun a => tableAlias (m.scope s) a []) t.alias? :=
    Move.draft_ofOption fun a _ => draft_tableAlias s a []
  simp [namedTable, halias]

/-! ### Limits -/

@[simp] lemma draft_rowCount (d : Dialect) (n : UInt64) : m.draft d (rowCount n) = rowCount n :=
  m.draft_number d _

@[simp] lemma draft_limitInFront (q : Select) :
    m.draft s.dialect (limitInFront s q) = limitInFront (m.scope s) q := by
  refine Move.draft_ofOption fun l _ => ?_
  have hcount (word : String) (n? : Option UInt64) :
      m.draft s.dialect (.ofOption (fun n => word ++ rowCount n ++ " ") n?) =
        .ofOption (fun n => word ++ rowCount n ++ " ") n? :=
    Move.draft_ofOption fun n _ => by simp
  have hfirstSkip : m.draft s.dialect (firstSkip s q l) = firstSkip (m.scope s) q l := by
    simp [firstSkip, hcount]
  rw [Move.scope_dialect]
  split <;> simp [hcount, hfirstSkip]

@[simp] lemma draft_offsetFetch (l : Limit) :
    m.draft s.dialect (offsetFetch s l) = offsetFetch (m.scope s) l := by
  have hpart (before after : String) (n? : Option UInt64) :
      m.draft s.dialect (.ofOption (fun n => s.clause before ++ rowCount n ++ after) n?) =
        .ofOption (fun n => s.clause before ++ rowCount n ++ after) n? :=
    Move.draft_ofOption fun n _ => by simp
  simp [offsetFetch, hpart]

@[simp] lemma draft_limitOffset (l : Limit) :
    m.draft s.dialect (limitOffset s l) = limitOffset (m.scope s) l := by
  have hoffset (m? : Option UInt64) :
      m.draft s.dialect (.ofOption (fun n => s.clause "OFFSET " ++ rowCount n) m?) =
        .ofOption (fun n => s.clause "OFFSET " ++ rowCount n) m? :=
    Move.draft_ofOption fun n _ => by simp
  have hunlimited : m.draft s.dialect (unlimited s) = unlimited (m.scope s) := by
    rw [unlimited, unlimited, Move.scope_family]
    split <;> simp
  rw [limitOffset, limitOffset]
  split <;> simp [hoffset, hunlimited]

@[simp] lemma draft_limitAtEnd (q : Select) :
    m.draft s.dialect (limitAtEnd s q) = limitAtEnd (m.scope s) q := by
  refine Move.draft_ofOption fun l _ => ?_
  rw [Move.scope_dialect]
  split <;> simp [orderedOffsetFetch]

end Draft

lemma Scope.draft_ifOuterJoin {m : Move} (s : Scope) {type : JoinType} {a b : Draft}
    (h : m.draft s.dialect a = b) :
    m.draft s.dialect (s.ifOuterJoin type a) = (m.scope s).ifOuterJoin type b := by
  simp [ifOuterJoin, h]

@[simp] lemma Writers.draft_constantCondition {m : Move} (s : Scope) (b : Bool) :
    m.draft s.dialect (constantCondition s b) = constantCondition (m.scope s) b := by
  simp [constantCondition]

namespace Writers.Moves

variable {m : Move} {w w' : Writers} {n : Nat} (hw : Moves m w w' n) (s : Scope)
include hw

/-! ### Conditions -/

lemma parenthesized {c : Condition} (h : c.rank ≤ n) :
    m.draft s.dialect (w.parenthesized s c) = w'.parenthesized (m.scope s) c := by
  have hc : m.draft s.dialect (w.condition (s.operandOf none) c) =
      w'.condition ((m.scope s).operandOf none) c := hw.condition (s.operandOf none) h
  simp [Writers.parenthesized, hc]

lemma junctionOperand (parent : Junction) {c : Condition} (h : c.rank ≤ n) :
    m.draft s.dialect (w.junctionOperand s parent c) =
      w'.junctionOperand (m.scope s) parent c := by
  have hc : m.draft s.dialect (w.condition (s.operandOf (some parent)) c) =
      w'.condition ((m.scope s).operandOf (some parent)) c :=
    hw.condition (s.operandOf (some parent)) h
  simp [Writers.junctionOperand, hw.parenthesized s h, hc]

lemma junction (j : Junction) {ifEmpty : Condition} (hempty : ifEmpty.rank ≤ n)
    {cs : List Condition} (h : rankOfConditions cs ≤ n) :
    m.draft s.dialect (w.junction s j ifEmpty cs) = w'.junction (m.scope s) j ifEmpty cs := by
  have hc (c) (hc : c ∈ cs) : c.rank ≤ n := Nat.le_trans (rank_le_rankOfConditions hc) h
  rw [Writers.junction.eq_def, Writers.junction.eq_def]
  split
  · exact hw.condition s hempty
  · exact hw.condition s (hc _ (List.mem_singleton_self _))
  · exact Move.draft_separated_map _ fun c hmem => hw.junctionOperand s j (hc c hmem)

lemma detour {c : Condition} (h : c.rank ≤ n) :
    m.draft s.dialect (w.detour s c) = w'.detour (m.scope s) c := by
  rw [Writers.detour, Writers.detour, Move.scope_junction]
  split
  · simp [hw.parenthesized s h, hw.condition s h]
  · exact hw.condition s h

lemma detourOf {c : Except Error Condition} (h : ∀ d, c = .ok d → d.rank ≤ n) :
    m.draft s.dialect (w.detourOf s c) = w'.detourOf (m.scope s) c :=
  Move.draft_bind fun d hd => hw.detour s (h d hd)

lemma like {l : Like} (h : (Condition.like l).rank ≤ n + 1) :
    m.draft s.dialect (w.like s l) = w'.like (m.scope s) l := by
  have hescape : m.draft s.dialect (.ofOption (fun c =>
        Draft.text (" ESCAPE " ++ s.dialect.stringLiteral (String.singleton c))) l.escape?) =
      .ofOption (fun c =>
        Draft.text (" ESCAPE " ++ s.dialect.stringLiteral (String.singleton c))) l.escape? :=
    Move.draft_ofOption fun c _ => m.draft_text _ _
  have hparts := Condition.max_rank_lt_like l
  -- the one form is written with either word, the other one is a condition of lower rank
  have hdirect (words : String) :
      m.draft s.dialect (w.expr s l.text ++ " " ++ notIf l.negate ++ words ++
        w.expr s l.pattern) =
      w'.expr (m.scope s) l.text ++ " " ++ notIf l.negate ++ words ++
        w'.expr (m.scope s) l.pattern := by
    simp [hw.expr s (e := l.text) (by omega), hw.expr s (e := l.pattern) (by omega)]
  rw [Writers.like, Writers.like, Move.draft_ite, Move.scope_has]
  split
  next hlower =>
    have := Condition.rank_expandIgnoreCase (l := l) (by simp_all)
    exact hw.condition s (by omega)
  · rw [Move.draft_append, hdirect, hescape, Move.scope_dialect]

lemma between {e low high : Expr} {negate symmetric : Bool}
    (h : (Condition.between e low high negate symmetric).rank ≤ n + 1) :
    m.draft s.dialect (w.between s e low high negate symmetric) =
      w'.between (m.scope s) e low high negate symmetric := by
  have hparts : max e.rank (max low.rank high.rank) ≤ n := by
    rw [Condition.rank_between] at h
    split at h <;> omega
  have hnative : m.draft s.dialect (w.expr s e ++ betweenWords negate symmetric ++ w.expr s low ++
        " AND " ++ w.expr s high) =
      w'.expr (m.scope s) e ++ betweenWords negate symmetric ++ w'.expr (m.scope s) low ++
        " AND " ++ w'.expr (m.scope s) high := by
    simp [hw.expr s (e := e) (by omega), hw.expr s (e := low) (by omega),
      hw.expr s (e := high) (by omega)]
  dsimp only [Writers.between]
  rw [Move.draft_ite, hnative, Move.scope_has]
  congr 1
  split
  next c hc =>
    have := Condition.rank_of_expandBetween hc
    exact hw.detour s (by omega)
  · exact hnative

lemma inChunk {e : Expr} (he : e.rank ≤ n) (negate : Bool) {list : List Expr}
    (hlist : rankOfExprs list ≤ n) :
    m.draft s.dialect (w.inChunk s e negate list) = w'.inChunk (m.scope s) e negate list := by
  simp [Writers.inChunk, hw.expr s he, hw.exprs s hlist]

lemma inList {e : Expr} {list : List Expr} {negate : Bool}
    (h : (Condition.inList e list negate).rank ≤ n + 1) :
    m.draft s.dialect (w.inList s e list negate) = w'.inList (m.scope s) e list negate := by
  rw [Condition.rank_inList] at h
  have he : e.rank ≤ n := by omega
  have hlist (part : List Expr) (hpart : part ∈ chunks Feature.inListLimit list) :
      m.draft s.dialect (w.inChunk s e negate part) = w'.inChunk (m.scope s) e negate part := by
    refine hw.inChunk s he negate (rankOfExprs_le (Nat.le_trans e.one_le_rank he) fun a ha => ?_)
    obtain ⟨i, -, rfl⟩ := List.mem_map.mp hpart
    have := rank_le_rankOfExprs (List.mem_of_mem_drop (List.mem_of_mem_take ha))
    omega
  have hchunks (separator : String) := Move.draft_separated_map separator hlist
  simp [Writers.inList, hw.inChunk s he negate (show rankOfExprs list ≤ n by omega), hchunks]

lemma inSelect {e : Expr} {q : Select} {negate : Bool}
    (h : (Condition.inSelect e q negate).rank ≤ n + 1) :
    m.draft s.dialect (w.inSelect s e q negate) = w'.inSelect (m.scope s) e q negate := by
  rw [Condition.rank_inSelect] at h
  simp [Writers.inSelect, hw.expr s (e := e) (by omega), hw.subquery s (q := q) (by omega)]

lemma isDistinct {a b : Expr} {negate : Bool}
    (h : (Condition.isDistinct a b negate).rank ≤ n + 1) :
    m.draft s.dialect (w.isDistinct s a b negate) = w'.isDistinct (m.scope s) a b negate := by
  have hexpanded := Condition.rank_expandDistinct a b negate
  have hdetour := hw.detour s (c := .expandDistinct a b negate) (by omega)
  rw [Condition.rank_isDistinct] at h
  have ha := hw.expr s (e := a) (by omega)
  have hb := hw.expr s (e := b) (by omega)
  simp only [Writers.isDistinct, Move.draft_ite, Move.scope_has, Move.scope_family]
  congr 1
  · simp [ha, hb]
  · split <;> simp [ha, hb, hdetour]

lemma rowCompare {left right : Row} {op : CompareOp}
    (h : (Condition.rowCompare left op right).rank ≤ n + 1) :
    m.draft s.dialect (w.rowCompare s left op right) =
      w'.rowCompare (m.scope s) left op right := by
  have hdetour := hw.detourOf s (c := Condition.expandRowCompare left op right) fun c hc => by
    have := Condition.rank_of_expandRowCompare hc
    omega
  rw [Condition.rank_rowCompare] at h
  simp [Writers.rowCompare, hdetour, hw.row s (r := left) (by omega),
    hw.row s (r := right) (by omega)]

lemma rowInList {row : Row} {list : List Row} {negate : Bool}
    (h : (Condition.rowInList row list negate).rank ≤ n + 1) :
    m.draft s.dialect (w.rowInList s row list negate) =
      w'.rowInList (m.scope s) row list negate := by
  have hdetour := hw.detourOf s (c := Condition.expandRowIn row list negate) fun c hc => by
    have := Condition.rank_of_expandRowIn hc
    omega
  rw [Condition.rank_rowInList] at h
  have hempty : m.draft s.dialect (w.condition s (.ofBool negate)) =
      w'.condition (m.scope s) (.ofBool negate) := by
    -- the condition in the place of an empty list has rank 1, as every place allows
    refine hw.condition s ?_
    have := one_le_rankOfExprs row
    cases negate <;> exact Nat.le_trans (Nat.le_refl 1) (by omega)
  have hlist : m.draft s.dialect (.commas (list.map (w.row s))) =
      .commas (list.map (w'.row (m.scope s))) :=
    Move.draft_commas_map fun r hr => by
      have := rankOfExprs_le_rankOfRows hr
      exact hw.row s (by omega)
  simp [Writers.rowInList, hempty, hlist, hdetour, hw.row s (r := row) (by omega)]

lemma rowInSelect {row : Row} {q : Select} {negate : Bool}
    (h : (Condition.rowInSelect row q negate).rank ≤ n + 1) :
    m.draft s.dialect (w.rowInSelect s row q negate) =
      w'.rowInSelect (m.scope s) row q negate := by
  have hdetour := hw.detourOf s (c := Condition.expandRowInSelect row q negate) fun c hc => by
    have := Condition.rank_of_expandRowInSelect hc
    omega
  rw [Condition.rank_rowInSelect] at h
  simp [Writers.rowInSelect, hdetour, hw.row s (r := row) (by omega),
    hw.subquery s (q := q) (by omega)]

lemma rowIsNull {row : Row} {negate : Bool} (h : (Condition.rowIsNull row negate).rank ≤ n + 1) :
    m.draft s.dialect (w.rowIsNull s row negate) = w'.rowIsNull (m.scope s) row negate := by
  have hexpanded := Condition.rank_expandRowIsNull row negate
  have hdetour := hw.detour s (c := .expandRowIsNull row negate) (by omega)
  rw [Condition.rank_rowIsNull] at h
  simp [Writers.rowIsNull, hdetour, hw.row s (r := row) (by omega)]

lemma rowBetween {row low high : Row} {negate symmetric : Bool}
    (h : (Condition.rowBetween row low high negate symmetric).rank ≤ n + 1) :
    m.draft s.dialect (w.rowBetween s row low high negate symmetric) =
      w'.rowBetween (m.scope s) row low high negate symmetric := by
  have hdetour := hw.detourOf s (c := Condition.expandRowBetween row low high negate symmetric)
    fun c hc => by
      have := Condition.rank_of_expandRowBetween hc
      omega
  rw [Condition.rank_rowBetween] at h
  simp [Writers.rowBetween, hdetour, hw.row s (r := row) (by omega),
    hw.row s (r := low) (by omega), hw.row s (r := high) (by omega)]

lemma xor {c d : Condition} (h : (Condition.xor c d).rank ≤ n + 1) :
    m.draft s.dialect (w.xor s c d) = w'.xor (m.scope s) c d := by
  have hexpanded := Condition.rank_expandXor c d
  have hdetour := hw.detour s (c := .expandXor c d) (by omega)
  rw [Condition.rank_xor] at h
  simp [Writers.xor, hdetour, hw.junctionOperand s .xor (c := c) (by omega),
    hw.junctionOperand s .xor (c := d) (by omega)]

lemma holds {e : Expr} (h : e.rank ≤ n) :
    m.draft s.dialect (w.holds s e) = w'.holds (m.scope s) e := by
  simp [Writers.holds, hw.expr s h]

/-- The draft of a condition at another place. -/
lemma draftCondition {c : Condition} (h : c.rank ≤ n + 1) :
    m.draft s.dialect (w.draftCondition s c) = w'.draftCondition (m.scope s) c := by
  have hpos (cs : List Condition) (hcs : 1 + rankOfConditions cs ≤ n + 1) : 1 ≤ n := by
    have := one_le_rankOfConditions cs
    omega
  cases c with
  | always => exact draft_constantCondition s true
  | never => exact draft_constantCondition s false
  | compare a op b =>
    rw [Condition.rank_compare] at h
    simp [Writers.draftCondition, hw.expr s (e := a) (by omega), hw.expr s (e := b) (by omega)]
  | like l => exact hw.like s h
  | between e low high negate symmetric => exact hw.between s h
  | inList e list negate => exact hw.inList s h
  | inSelect e q negate => exact hw.inSelect s h
  | isNull e negate =>
    rw [Condition.rank_isNull] at h
    simp [Writers.draftCondition, hw.expr s (e := e) (by omega)]
  | isDistinct a b negate => exact hw.isDistinct s h
  | rowCompare left op right => exact hw.rowCompare s h
  | rowInList row list negate => exact hw.rowInList s h
  | rowInSelect row q negate => exact hw.rowInSelect s h
  | rowIsNull row negate => exact hw.rowIsNull s h
  | rowBetween row low high negate symmetric => exact hw.rowBetween s h
  | hasRows q negate =>
    rw [Condition.rank_hasRows] at h
    simp [Writers.draftCondition, hw.subquery s (q := q) (by omega)]
  | not c =>
    rw [Condition.rank_not] at h
    simp [Writers.draftCondition, hw.parenthesized s (c := c) (by omega)]
  | and cs =>
    rw [Condition.rank_and] at h
    exact hw.junction s .and (show Condition.always.rank ≤ n from hpos cs h) (by omega)
  | or cs =>
    rw [Condition.rank_or] at h
    exact hw.junction s .or (show Condition.never.rank ≤ n from hpos cs h) (by omega)
  | xor c d => exact hw.xor s h
  | holds e =>
    rw [Condition.rank_holds] at h
    exact hw.holds s (by omega)

/-! ### Tables -/

lemma aliasedQuery {q : Select} (h : q.rank ≤ n) (name : Name) :
    m.draft s.dialect (w.aliasedQuery s q name) = w'.aliasedQuery (m.scope s) q name := by
  simp [Writers.aliasedQuery, hw.subquery s h]

lemma derived {q : Select} {called : TableAlias} (h : (Table.derived q called).rank ≤ n + 1) :
    m.draft s.dialect (w.derived s q called) = w'.derived (m.scope s) q called := by
  have hrenamed := q.rank_renamed_le called.name called.columns
  rw [Table.rank_derived] at h
  have hq : q.rank ≤ n := by
    split at h <;> omega
  rw [Writers.derived, Writers.derived, Move.draft_ite, Move.scope_has]
  split
  · simp [hw.subquery s hq]
  next hcolumns =>
    rw [if_neg (by simp_all)] at h
    exact hw.aliasedQuery s (by omega) called.name

lemma valuesTable {rows : List Row} {called : TableAlias}
    (h : (Table.values rows called).rank ≤ n + 1) :
    m.draft s.dialect (w.valuesTable s rows called) =
      w'.valuesTable (m.scope s) rows called := by
  have hquery := Select.rank_ofRows_lt rows (called.valuesColumns rows)
  rw [Table.rank_values] at h
  have haliased := hw.aliasedQuery s (q := .ofRows rows (called.valuesColumns rows)) (by omega)
  have hrow (r) (hr : r ∈ rows) : m.draft s.dialect (w.row s r) = w'.row (m.scope s) r := by
    have := rankOfExprs_le_rankOfRows hr
    exact hw.row s (by omega)
  have hrows := Move.draft_commas_map hrow
  have hkeyed : m.draft s.dialect (.commas (rows.map fun r => "ROW" ++ w.row s r)) =
      .commas (rows.map fun r => "ROW" ++ w'.row (m.scope s) r) :=
    Move.draft_commas_map fun r hr => by simp [hrow r hr]
  simp [Writers.valuesTable, haliased, hrows, hkeyed]

lemma unnest {elements : List Expr} {called : TableAlias} {ordinality : Bool}
    (h : (Table.unnest elements called ordinality).rank ≤ n + 1) :
    m.draft s.dialect (w.unnest s elements called ordinality) =
      w'.unnest (m.scope s) elements called ordinality := by
  have hrows := rankOfRows_unnestRows_le elements ordinality
  have hquery := Select.rank_ofRows_lt (unnestRows elements ordinality)
    (called.unnestColumns ordinality)
  rw [Table.rank_unnest] at h
  have haliased := hw.aliasedQuery s (q := .ofRows (unnestRows elements ordinality)
    (called.unnestColumns ordinality)) (by omega)
  simp [Writers.unnest, haliased, hw.exprs s (show rankOfExprs elements ≤ n by omega)]

lemma rowsFrom {functions : List Call} {called : TableAlias}
    (h : (Table.rowsFrom functions called).rank ≤ n + 1) :
    m.draft s.dialect (w.rowsFrom s functions called) =
      w'.rowsFrom (m.scope s) functions called := by
  rw [Table.rank_rowsFrom] at h
  have hcalls : m.draft s.dialect (.commas (functions.map (w.call s))) =
      .commas (functions.map (w'.call (m.scope s))) :=
    Move.draft_commas_map fun c hc => by
      have := rank_le_rankOfCalls hc
      exact hw.call s (by omega)
  simp [Writers.rowsFrom, hcalls]

lemma sides {left right : Table} (words : String) (hleft : left.rank ≤ n)
    (hright : right.rank ≤ n) :
    m.draft s.dialect (w.sides s left words right) = w'.sides (m.scope s) left words right := by
  have hside : m.draft s.dialect (w.rightSide s right) = w'.rightSide (m.scope s) right := by
    rw [Writers.rightSide.eq_def, Writers.rightSide.eq_def]
    split <;> simp [hw.table s hright]
  simp [Writers.sides, hw.table s hleft, hside]

section

variable {j : Join} (h : (Table.join j).rank ≤ n + 1)
include h

omit hw in
lemma rank_sides_le : j.left.rank ≤ n ∧ j.right.rank ≤ n := by
  have := Table.rank_left_lt j
  have := Table.rank_right_lt j
  omega

lemma joinOn (type : JoinType) {c : Condition} (hc : c.rank ≤ n) :
    m.draft s.dialect (w.joinOn s j type c) = w'.joinOn (m.scope s) j type c := by
  obtain ⟨hleft, hright⟩ := rank_sides_le h
  refine s.draft_ifOuterJoin ?_
  simp [Scope.joinKeyword, hw.sides s _ hleft hright, hw.condition s hc]

lemma semiJoin : m.draft s.dialect (w.semiJoin s j) = w'.semiJoin (m.scope s) j := by
  have hcondition := j.rank_condition_le
  have hrank := Join.rank_eq j
  simp [Writers.semiJoin, hw.joinOn s h j.type (c := j.condition) (by omega),
    hw.table s (t := j.left) (by omega)]

lemma apply : m.draft s.dialect (w.apply s j) = w'.apply (m.scope s) j := by
  obtain ⟨hleft, hright⟩ := rank_sides_le h
  have hlateral : j.right.withoutLateral.rank ≤ n :=
    Nat.le_trans (Table.rank_withoutLateral_le j.right) hright
  have halways : m.draft s.dialect (w.condition s .always) = w'.condition (m.scope s) .always :=
    hw.condition s (Nat.le_trans (Table.one_le_rank _) hleft)
  simp [Writers.apply, hw.sides s _ hleft hright, hw.sides s _ hleft hlateral, halways]

/-- The draft of a join at another place. -/
lemma join : m.draft s.dialect (w.join s j) = w'.join (m.scope s) j := by
  obtain ⟨hleft, hright⟩ := rank_sides_le h
  have hnatural := j.rank_naturalCondition_le
  have husing := j.rank_usingCondition_le
  have hon : (j.on?.getD .always).rank = rankOfFilter j.on? := by cases j.on? <;> rfl
  have hrank := Join.rank_eq j
  have hsides (words : String) := hw.sides s words hleft hright
  have hnaturalJoin : m.draft s.dialect (w.naturalJoin s j) = w'.naturalJoin (m.scope s) j := by
    rw [Writers.naturalJoin, Writers.naturalJoin, Move.draft_ite, s.draft_ifOuterJoin (hsides _),
      hw.joinOn s h _ (by omega), Move.scope_has]
  have husingJoin : m.draft s.dialect (w.usingJoin s j) = w'.usingJoin (m.scope s) j := by
    rw [Writers.usingJoin, Writers.usingJoin, Move.draft_ite, hw.joinOn s h _ (by omega),
      Move.scope_has]
    congr 1
    exact s.draft_ifOuterJoin (by simp [hsides, Scope.joinKeyword])
  simp [Writers.join, hw.semiJoin s h, hw.apply s h, hnaturalJoin, husingJoin, hsides,
    hw.joinOn s h j.type (c := j.on?.getD .always) (by omega)]

end

/-- The draft of a table at another place. -/
lemma draftTable {t : Table} (h : t.rank ≤ n + 1) :
    m.draft s.dialect (w.draftTable s t) = w'.draftTable (m.scope s) t := by
  cases t with
  | named t => exact Draft.draft_namedTable s t
  | derived q called => exact hw.derived s h
  | join j => exact hw.join s h
  | values rows called => exact hw.valuesTable s h
  | unnest elements called ordinality => exact hw.unnest s h
  | rowsFrom functions called => exact hw.rowsFrom s h
  | lateral t =>
    rw [Table.rank_lateral] at h
    simp [Writers.draftTable, Writers.lateral, hw.table s (t := t) (by omega)]
  | dual => simp [Writers.draftTable]

/-! ### Queries -/

lemma tables {ts : List Table} (h : rankOfTables ts ≤ n) :
    m.draft s.dialect (w.tables s ts) = w'.tables (m.scope s) ts :=
  Move.draft_commas_map fun _ ht =>
    hw.table s.absorbing (Nat.le_trans (rank_le_rankOfTables ht) h)

lemma whereClause {filter? : Option Condition} (h : rankOfFilter filter? ≤ n) :
    m.draft s.dialect (w.whereClause s filter?) = w'.whereClause (m.scope s) filter? :=
  Move.draft_ofOption fun c hc => by
    subst hc
    simp [hw.condition s h]

lemma orderItem {o : OrderItem} (h : o.expr.rank ≤ n) :
    m.draft s.dialect (w.orderItem s o) = w'.orderItem (m.scope s) o := by
  have he := hw.expr s h
  dsimp only [Writers.orderItem]
  split
  · simp [he]
  next nulls _ => cases nulls <;> simp [he]

lemma orderBy {items : List OrderItem} (h : rankOfOrder items ≤ n) :
    m.draft s.dialect (w.orderBy s items) = w'.orderBy (m.scope s) items := by
  have hitems := Move.draft_commas_map fun o (ho : o ∈ items) =>
    hw.orderItem s (Nat.le_trans (rank_le_rankOfOrder ho) h)
  simp [Writers.orderBy, hitems]

lemma withClause {c : With} (h : rankOfCtes c.ctes ≤ n) :
    m.draft s.dialect (w.withClause s c) = w'.withClause (m.scope s) c := by
  have hctes : m.draft s.dialect (.commas (c.ctes.map (w.cte s))) =
      .commas (c.ctes.map (w'.cte (m.scope s))) :=
    Move.draft_commas_map fun c hc => by
      simp [Writers.cte, hw.subquery s (Nat.le_trans (rank_le_rankOfCtes hc) h)]
  simp [Writers.withClause, hctes]

lemma distinct {d : Distinct} (h : rankOfDistinct (some d) ≤ n) :
    m.draft s.dialect (w.distinct s d) = w'.distinct (m.scope s) d := by
  cases d with
  | all => exact m.draft_text _ _
  | on es => simp [Writers.distinct, hw.exprs s (show rankOfExprs es ≤ n from h)]

lemma selectFields {fs : List SelectField} (h : rankOfFields fs ≤ n) :
    m.draft s.dialect (w.selectFields s fs) = w'.selectFields (m.scope s) fs := by
  have halias (a? : Option Name) :
      m.draft s.dialect (.ofOption (fun n => " AS " ++ Draft.unqualified n) a?) =
        .ofOption (fun n => " AS " ++ Draft.unqualified n) a? :=
    Move.draft_ofOption fun a _ => by simp
  have hfields : m.draft s.dialect (.commas (fs.map (w.selectField s))) =
      .commas (fs.map (w'.selectField (m.scope s))) :=
    Move.draft_commas_map fun f hf => by
      simp [Writers.selectField, halias,
        hw.expr s (Nat.le_trans (rank_le_rankOfFields hf) h)]
  simp [Writers.selectFields, hfields]

lemma fromClause {ts : List Table} (h : rankOfTables ts ≤ n) (filtered : Bool) :
    m.draft s.dialect (w.fromClause s ts filtered) =
      w'.fromClause (m.scope s) ts filtered := by
  have hfiltered : rankOfTables (ts.filter fun t => !t.isDual) ≤ n := by
    refine highest_le rfl rankOfTables_cons (Nat.le_trans ?_ h) fun t ht =>
      Nat.le_trans (rank_le_rankOfTables (List.mem_filter.mp ht).1) h
    cases ts with
    | nil => exact Nat.le_refl 1
    | cons t ts => exact Nat.le_trans t.one_le_rank (Nat.le_max_left _ _)
  rw [Writers.fromClause, Writers.fromClause]
  split
  · simp
  · simp [hw.tables s hfiltered]

variable {q : Select}

lemma body (h : q.PartsWithin (n - 1)) (hn : 1 ≤ n) (first : Bool) :
    m.draft s.dialect (w.body s q first) = w'.body (m.scope s) q first := by
  have hparts := h.mono (show n - 1 ≤ n by omega)
  have hdistinct : m.draft s.dialect (.ofOption (w.distinct s) q.distinct?) =
      .ofOption (w'.distinct (m.scope s)) q.distinct? :=
    Move.draft_ofOption fun d hd => hw.distinct s (hd ▸ hparts.distinct?)
  have hwhere : rankOfFilter (rowCondition s.dialect q) ≤ n := by
    have := rankOfFilter_rowCondition_le s.dialect h
    omega
  have hhaving : m.draft s.dialect
        (.ofOption (fun c => s.clause "HAVING " ++ w.condition s c) q.having?) =
      .ofOption (fun c => s.clause "HAVING " ++ w'.condition (m.scope s) c) q.having? :=
    Move.draft_ofOption fun c hc => by
      have := hc ▸ hparts.having?
      simp [hw.condition s (c := c) this]
  simp [Writers.body, hdistinct, hhaving, hw.selectFields s hparts.fields,
    hw.fromClause s hparts.tables, hw.whereClause s hwhere, hw.exprs s hparts.groupBy]

lemma setOperation {o : SetOperation} (h : o.select.rank ≤ n) :
    m.draft s.dialect (w.setOperation s o) = w'.setOperation (m.scope s) o := by
  have hone := o.select.one_lt_rank
  have hbody : m.draft s.dialect (w.body s.withoutFieldNames o.select false) =
      w'.body (m.scope s).withoutFieldNames o.select false :=
    hw.body s.withoutFieldNames (Select.partsWithin_of_rank_le (by omega)) (by omega) false
  have hwords : setWords (m.scope s) o = setWords s o := by
    simp [setWords]
  simp [Writers.setOperation, hwords, hw.subquery s h, hbody]

lemma selectLimited (h : q.rank ≤ n + 1) :
    m.draft s.dialect (w.selectLimited s q) = w'.selectLimited (m.scope s) q := by
  have hone := q.one_lt_rank
  have hparts : q.PartsWithin (n - 1) := Select.partsWithin_of_rank_le (by omega)
  have hparts' := hparts.mono (show n - 1 ≤ n by omega)
  have hwith : m.draft s.dialect (.ofOption (w.withClause s) q.with?) =
      .ofOption (w'.withClause (m.scope s)) q.with? :=
    Move.draft_ofOption fun c hc => hw.withClause s <| by
      have := hc ▸ hparts'.with?
      cases c
      exact this
  have hsetOps : m.draft s.dialect (.concat (q.setOps.map (w.setOperation s))) =
      .concat (q.setOps.map (w'.setOperation (m.scope s))) :=
    Move.draft_concat_map fun o ho =>
      hw.setOperation s (Nat.le_trans (rank_le_rankOfSetOps ho) hparts'.setOps)
  simp [Writers.selectLimited, hwith, hsetOps, hw.body s hparts (by omega),
    hw.orderBy s hparts'.orderBy]

lemma rowNumbered {l : Limit} (hl : q.limited? = some l) (h : q.rank ≤ n + 1) :
    m.draft s.dialect (w.rowNumbered s q l) = w'.rowNumbered (m.scope s) q l := by
  have hrank := Select.rank_withoutLimit_lt hl
  have hall : m.draft s.dialect (w.select s.inQuery { q with limit? := none }) =
      w'.select (m.scope s).inQuery { q with limit? := none } :=
    hw.select s.inQuery (by omega)
  have hlast (offset : UInt64) (n? : Option UInt64) :
      m.draft s.dialect (.ofOption
        (fun n => " WHERE ROWNUM <= " ++ Draft.number (Limit.lastRow n offset)) n?) =
      .ofOption (fun n => " WHERE ROWNUM <= " ++ Draft.number (Limit.lastRow n offset)) n? :=
    Move.draft_ofOption fun n _ => by simp
  dsimp only [Writers.rowNumbered]
  split <;> simp [hall, hlast]

/-- The draft of a query at another place. -/
lemma draftSelect (h : q.rank ≤ n + 1) :
    m.draft s.dialect (w.draftSelect s q) = w'.draftSelect (m.scope s) q := by
  rw [Writers.draftSelect, Writers.draftSelect, Move.scope_dialect]
  split
  · exact hw.selectLimited s h
  next l hl => simp [hw.rowNumbered s hl h, hw.selectLimited s h]

end Writers.Moves

/-- The writers of every level move what the level is high enough for, whatever the levels are above
that. -/
theorem Writers.moves_level (m : Move) (a b : Nat) :
    ∀ n : Nat, Moves m (level (n + a)) (level (n + b)) n
  | 0 =>
    -- nothing has rank zero
    { expr := fun _ e h => absurd e.one_le_rank (Nat.not_le.mpr (Nat.lt_succ_of_le h))
      call := fun _ c h => absurd c.rankOfExprs_args_lt (by omega)
      condition := fun _ c h => absurd c.one_le_rank (Nat.not_le.mpr (Nat.lt_succ_of_le h))
      select := fun _ q h => absurd q.one_lt_rank (by omega)
      table := fun _ t h => absurd t.one_le_rank (Nat.not_le.mpr (Nat.lt_succ_of_le h)) }
  | n + 1 => by
    have hw := moves_level m a b n
    rw [Nat.add_right_comm n 1 a, Nat.add_right_comm n 1 b]
    exact
      { expr := fun s _ => hw.draftExpr s
        call := fun s _ => hw.draftCall s
        condition := fun s _ => hw.draftCondition s
        select := fun s _ => hw.draftSelect s
        table := fun s _ => hw.draftTable s }

/-- The writers of levels above the rank of a part move it. -/
lemma Writers.moves_of_le (m : Move) {n k l : Nat} (hk : n ≤ k) (hl : n ≤ l) :
    Moves m (level k) (level l) n := by
  obtain ⟨a, rfl⟩ := Nat.exists_eq_add_of_le hk
  obtain ⟨b, rfl⟩ := Nat.exists_eq_add_of_le hl
  exact moves_level m a b n

end Polysql

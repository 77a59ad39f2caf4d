import Polysql.Draft.Select
import Polysql.Proofs.Draft.Expr
/-!
The manner of the drafts of conditions, tables and queries: each is that of its place, if the drafts
of the parts are. A query inside of another stands at a place of the same manner.
-/

namespace Polysql

/-- What a query lacks that applies to no more than one operand. -/
lemma Select.isCompound_eq_false_iff {q : Select} : q.isCompound = false ↔
    q.with? = none ∧ q.setOps = [] ∧ q.orderBy = [] ∧ q.limited? = none := by
  simp only [isCompound, Bool.or_eq_false_iff, Bool.not_eq_false', List.isEmpty_iff,
    Option.isSome_eq_false_iff, Option.isNone_iff_eq_none, and_assoc]

namespace Scope

variable (s : Scope)

@[simp] lemma manner_operandOf (junction? : Option Junction) :
    (s.operandOf junction?).manner = s.manner := rfl

@[simp] lemma manner_absorbing : s.absorbing.manner = s.manner := rfl

@[simp] lemma manner_withoutFieldNames : s.withoutFieldNames.manner = s.manner := rfl

@[simp] lemma follows_ifOuterJoin {m : Manner} (type : JoinType) {d : Draft} (h : d.Follows m) :
    (s.ifOuterJoin type d).Follows m := by
  simp [ifOuterJoin, h]

end Scope

namespace Draft

variable {m : Manner} (s : Scope)

@[simp] lemma follows_tableAlias (name : Name) (columns : List Name) :
    (tableAlias s name columns).Follows m := by
  simp [tableAlias]

@[simp] lemma follows_namedTable (t : NamedTable) : (namedTable s t).Follows m := by
  simp [namedTable]

@[simp] lemma follows_direction (direction? : Option Direction) :
    (direction direction?).Follows m := by
  rw [direction.eq_def]
  split <;> simp

/-! ### Limits -/

@[simp] lemma follows_rowCount (n : UInt64) : (rowCount n).Follows m := follows_number _

@[simp] lemma follows_firstSkip (q : Select) (l : Limit) : (firstSkip s q l).Follows m := by
  simp [firstSkip]

@[simp] lemma follows_limitInFront (q : Select) : (limitInFront s q).Follows m := by
  simp only [limitInFront, follows_ofOption]
  intro l _
  split <;> simp

@[simp] lemma follows_offsetFetch (l : Limit) : (offsetFetch s l).Follows m := by
  simp [offsetFetch]

@[simp] lemma follows_limitOffset (l : Limit) : (limitOffset s l).Follows m := by
  have hunlimited : (unlimited s).Follows m := by
    rw [unlimited]
    split <;> simp
  rw [limitOffset]
  split <;> simp [hunlimited]

@[simp] lemma follows_limitAtEnd (q : Select) : (limitAtEnd s q).Follows m := by
  simp only [limitAtEnd, follows_ofOption]
  intro l _
  split <;> simp [orderedOffsetFetch]

end Draft

namespace Writers.Settled

variable {w : Writers} (hw : w.Settled) (s : Scope)
include hw

/-! ### Conditions -/

lemma parenthesized (c : Condition) : (w.parenthesized s c).Follows s.manner := by
  simpa [Writers.parenthesized] using fun _ => hw.condition (s.operandOf none) c

lemma junctionOperand (parent : Junction) (c : Condition) :
    (w.junctionOperand s parent c).Follows s.manner := by
  have hoperand : (w.condition (s.operandOf (some parent)) c).Follows s.manner :=
    hw.condition (s.operandOf (some parent)) c
  simp [Writers.junctionOperand, hw.parenthesized, hoperand]

lemma junction (j : Junction) (ifEmpty : Condition) (cs : List Condition) :
    (w.junction s j ifEmpty cs).Follows s.manner := by
  rw [Writers.junction.eq_def]
  split
  · exact hw.condition s ifEmpty
  · exact hw.condition s _
  · exact Draft.follows_separated_map _ _ fun c _ => hw.junctionOperand s j c

lemma detour (c : Condition) : (w.detour s c).Follows s.manner := by
  rw [Writers.detour]
  split <;> simp [hw.parenthesized, hw.condition]

lemma detourOf (c : Except Error Condition) : (w.detourOf s c).Follows s.manner := by
  simp [Writers.detourOf, hw.detour]

lemma like (l : Like) : (w.like s l).Follows s.manner := by
  simp [Writers.like, hw.condition, hw.expr]

lemma between (e low high : Expr) (negate symmetric : Bool) :
    (w.between s e low high negate symmetric).Follows s.manner := by
  simp only [Writers.between, Draft.follows_ite]
  refine ⟨fun _ => by simp [hw.expr], fun _ => ?_⟩
  split <;> simp [hw.detour, hw.expr]

lemma inChunk (e : Expr) (negate : Bool) (list : List Expr) :
    (w.inChunk s e negate list).Follows s.manner := by
  simp [Writers.inChunk, hw.expr, hw.exprs]

lemma inList (e : Expr) (list : List Expr) (negate : Bool) :
    (w.inList s e list negate).Follows s.manner := by
  have hchunks (separator : String) (parts : List (List Expr)) :=
    Draft.follows_separated_map separator (w.inChunk s e negate) fun part (_ : part ∈ parts) =>
      hw.inChunk s e negate part
  simp [Writers.inList, hw.inChunk, hchunks]

lemma inSelect (e : Expr) (q : Select) (negate : Bool) :
    (w.inSelect s e q negate).Follows s.manner := by
  simp [Writers.inSelect, hw.expr, hw.subquery]

lemma isDistinct (a b : Expr) (negate : Bool) :
    (w.isDistinct s a b negate).Follows s.manner := by
  simp only [Writers.isDistinct, Draft.follows_ite]
  refine ⟨fun _ => by simp [hw.expr], fun _ => ?_⟩
  split <;> simp [hw.expr, hw.detour]

lemma rowCompare (left : Row) (op : CompareOp) (right : Row) :
    (w.rowCompare s left op right).Follows s.manner := by
  simp [Writers.rowCompare, hw.row, hw.detourOf]

lemma rowInList (row : Row) (list : List Row) (negate : Bool) :
    (w.rowInList s row list negate).Follows s.manner := by
  have hlist := Draft.follows_commas_map (w.row s) fun r (_ : r ∈ list) => hw.row s r
  simp [Writers.rowInList, hw.condition, hw.row, hw.detourOf, hlist]

lemma rowInSelect (row : Row) (q : Select) (negate : Bool) :
    (w.rowInSelect s row q negate).Follows s.manner := by
  simp [Writers.rowInSelect, hw.row, hw.subquery, hw.detourOf]

lemma rowIsNull (row : Row) (negate : Bool) : (w.rowIsNull s row negate).Follows s.manner := by
  simp [Writers.rowIsNull, hw.row, hw.detour]

lemma rowBetween (row low high : Row) (negate symmetric : Bool) :
    (w.rowBetween s row low high negate symmetric).Follows s.manner := by
  simp [Writers.rowBetween, hw.row, hw.detourOf]

lemma xor (c d : Condition) : (w.xor s c d).Follows s.manner := by
  simp [Writers.xor, hw.junctionOperand, hw.detour]

lemma holds (e : Expr) : (w.holds s e).Follows s.manner := by
  simp [Writers.holds, hw.expr]

/-- The draft of a condition. -/
lemma draftCondition (c : Condition) : (w.draftCondition s c).Follows s.manner := by
  rw [Writers.draftCondition.eq_def]
  split <;>
    simp [constantCondition, hw.expr, hw.like, hw.between, hw.inList, hw.inSelect, hw.isDistinct,
      hw.rowCompare, hw.rowInList, hw.rowInSelect, hw.rowIsNull, hw.rowBetween, hw.subquery,
      hw.parenthesized, hw.junction, hw.xor, hw.holds]

/-! ### Tables -/

lemma aliasedQuery (q : Select) (name : Name) : (w.aliasedQuery s q name).Follows s.manner := by
  simp [Writers.aliasedQuery, hw.subquery]

lemma derived (q : Select) (called : TableAlias) : (w.derived s q called).Follows s.manner := by
  simp [Writers.derived, hw.subquery, hw.aliasedQuery]

lemma valuesTable (rows : List Row) (called : TableAlias) :
    (w.valuesTable s rows called).Follows s.manner := by
  have hrows := Draft.follows_commas_map (w.row s) fun r (_ : r ∈ rows) => hw.row s r
  have hrowsOf := Draft.follows_commas_map (m := s.manner) (l := rows)
    (fun r => "ROW" ++ w.row s r) fun r _ => by simp [hw.row]
  simp [Writers.valuesTable, hw.aliasedQuery, hrows, hrowsOf]

lemma unnest (elements : List Expr) (called : TableAlias) (ordinality : Bool) :
    (w.unnest s elements called ordinality).Follows s.manner := by
  simp [Writers.unnest, hw.aliasedQuery, hw.exprs]

lemma rowsFrom (functions : List Call) (called : TableAlias) :
    (w.rowsFrom s functions called).Follows s.manner := by
  have hcalls := Draft.follows_commas_map (w.call s) fun c (_ : c ∈ functions) => hw.call s c
  simp [Writers.rowsFrom, hcalls]

lemma lateral (t : Table) : (w.lateral s t).Follows s.manner := by
  simp [Writers.lateral, hw.table]

lemma sides (left : Table) (words : String) (right : Table) :
    (w.sides s left words right).Follows s.manner := by
  have hright : (w.rightSide s right).Follows s.manner := by
    rw [Writers.rightSide.eq_def]
    split <;> simp [hw.table]
  simp [Writers.sides, hw.table, hright]

lemma joinOn (j : Join) (type : JoinType) (c : Condition) :
    (w.joinOn s j type c).Follows s.manner := by
  simp [Writers.joinOn, hw.sides, hw.condition]

/-- The draft of a join. -/
lemma join (j : Join) : (w.join s j).Follows s.manner := by
  simp [Writers.join, semiJoin, apply, naturalJoin, usingJoin, hw.joinOn, hw.sides, hw.table,
    hw.condition]

/-- The draft of a table. -/
lemma draftTable (t : Table) : (w.draftTable s t).Follows s.manner := by
  rw [Writers.draftTable.eq_def]
  split <;>
    simp [hw.derived, hw.join, hw.valuesTable, hw.unnest, hw.rowsFrom, hw.lateral]

/-! ### Queries -/

lemma tables (ts : List Table) : (w.tables s ts).Follows s.manner :=
  Draft.follows_commas_map _ fun t _ => hw.table s.absorbing t

lemma whereClause (filter? : Option Condition) : (w.whereClause s filter?).Follows s.manner := by
  simp [Writers.whereClause, hw.condition]

lemma orderItem (o : OrderItem) : (w.orderItem s o).Follows s.manner := by
  dsimp only [Writers.orderItem]
  split
  · simp [hw.expr]
  next nulls _ => cases nulls <;> simp [hw.expr]

lemma orderBy (items : List OrderItem) : (w.orderBy s items).Follows s.manner := by
  have hitems := Draft.follows_commas_map (w.orderItem s) fun o (_ : o ∈ items) =>
    hw.orderItem s o
  simp [Writers.orderBy, hitems]

lemma withClause (c : With) : (w.withClause s c).Follows s.manner := by
  have hctes := Draft.follows_commas_map (m := s.manner) (l := c.ctes) (w.cte s) fun c _ => by
    simp [cte, hw.subquery]
  simp [Writers.withClause, hctes]

lemma distinct (d : Distinct) : (w.distinct s d).Follows s.manner := by
  rw [Writers.distinct.eq_def]
  split <;> simp [hw.exprs]

lemma selectFields (fs : List SelectField) : (w.selectFields s fs).Follows s.manner := by
  have hfields := Draft.follows_commas_map (m := s.manner) (l := fs) (w.selectField s)
    fun f _ => by simp [selectField, hw.expr]
  simp [Writers.selectFields, hfields]

lemma fromClause (ts : List Table) (filtered : Bool) :
    (w.fromClause s ts filtered).Follows s.manner := by
  rw [Writers.fromClause]
  split <;> simp [hw.tables]

lemma body (q : Select) (first : Bool) : (w.body s q first).Follows s.manner := by
  simp [Writers.body, hw.distinct, hw.selectFields, hw.fromClause, hw.whereClause, hw.exprs,
    hw.condition]

lemma setOperation (o : SetOperation) : (w.setOperation s o).Follows s.manner := by
  have hbody : (w.body s.withoutFieldNames o.select false).Follows s.manner :=
    hw.body s.withoutFieldNames o.select false
  simp [Writers.setOperation, hw.subquery, hbody]

lemma selectLimited (q : Select) : (w.selectLimited s q).Follows s.manner := by
  have hsetOps := Draft.follows_concat_map (w.setOperation s) fun o (_ : o ∈ q.setOps) =>
    hw.setOperation s o
  simp [Writers.selectLimited, hw.withClause, hw.body, hw.orderBy, hsetOps]

lemma rowNumbered (q : Select) (l : Limit) : (w.rowNumbered s q l).Follows s.manner := by
  have hall (q : Select) : (w.select s.inQuery q).Follows s.manner := hw.select s.inQuery q
  dsimp only [Writers.rowNumbered]
  split <;> simp [hall]

/-- The draft of a query. -/
lemma draftSelect (q : Select) : (w.draftSelect s q).Follows s.manner := by
  rw [Writers.draftSelect]
  split <;> simp [hw.selectLimited, hw.rowNumbered]

end Writers.Settled

end Polysql

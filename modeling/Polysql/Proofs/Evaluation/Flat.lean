import Mathlib.Logic.Relation
import Polysql.Proofs.Evaluation.Junction
import Polysql.Proofs.Place.Descent
import Polysql.Query.KeyJoin
/-!
Conjunctions and disjunctions that are built flat. A condition is normal if every conjunction and
every disjunction anywhere inside it has at least two operands and none of its own kind. What
`both`, `either`, `all` and `any` build of normal conditions is normal (`Condition.normal_both`,
`Condition.normal_all`), and it is as true as the plain conjunction or disjunction.

The conditions that a query, a change of rows or a join is given one after the other are built in
this way too, so they are as true as their combination from the left to the right
(`Given.map_eval_foldl`).
-/

namespace Polysql

namespace Part

/-! ### What a part contains -/

/-- The parts of a list of pairs of expressions or conditions and expressions. -/
def partsOfBranches {α : Type} (part : α → Part) (branches : List (α × Expr)) : List Part :=
  branches.flatMap fun (a, e) => [part a, expr e]

/-- The expressions of several rows. -/
def partsOfRows (rows : List Row) : List Part :=
  rows.flatMap fun r => r.map expr

/-- The expressions that rows are ordered by. -/
def partsOfOrder (order : List OrderItem) : List Part :=
  order.map fun o => expr o.expr

/-- The immediate parts of an expression. -/
def partsOfExpr : Expr → List Part
  | .constant _ | .field _ _ | .asterisk _ | .sequence _ _ | .columnDefault => []
  | .arith _ a b => [expr a, expr b]
  | .neg e | .cast e _ => [expr e]
  | .bit _ a b? => expr a :: b?.toList.map expr
  | .call c => [call c]
  | .caseWhen branches otherwise? =>
    partsOfBranches condition branches ++ otherwise?.toList.map expr
  | .caseOf operand branches otherwise? =>
    expr operand :: partsOfBranches expr branches ++ otherwise?.toList.map expr
  | .condition c => [condition c]
  | .subquery q => [select q]

/-- The immediate parts of a condition. -/
def partsOfCondition : Condition → List Part
  | .always | .never => []
  | .compare a _ b | .isDistinct a b _ => [expr a, expr b]
  | .like l => [expr l.text, expr l.pattern]
  | .between e low high _ _ => [expr e, expr low, expr high]
  | .inList e list _ => expr e :: list.map expr
  | .inSelect e q _ => [expr e, select q]
  | .isNull e _ | .holds e => [expr e]
  | .rowCompare left _ right => (left ++ right).map expr
  | .rowInList row list _ => partsOfRows (row :: list)
  | .rowInSelect row q _ => row.map expr ++ [select q]
  | .rowIsNull row _ => row.map expr
  | .rowBetween row low high _ _ => (row ++ low ++ high).map expr
  | .hasRows q _ => [select q]
  | .not c => [condition c]
  | .and cs | .or cs => cs.map condition
  | .xor c d => [condition c, condition d]

/-- The immediate parts of a query. -/
def partsOfSelect (q : Select) : List Part :=
  (q.with?.toList.flatMap fun w => w.ctes.map fun c => select c.select) ++
  (match q.distinct? with
    | some (.on exprs) => exprs.map expr
    | _ => []) ++
  (q.fields.map fun f => expr f.expr) ++ q.tables.map table ++ q.filter?.toList.map condition ++
  q.groupBy.map expr ++ q.having?.toList.map condition ++
  (q.setOps.map fun o => select o.select) ++ partsOfOrder q.orderBy

/-- The immediate parts of a table. -/
def partsOfTable : Table → List Part
  | .named _ | .dual => []
  | .derived q _ => [select q]
  | .join j => [table j.left, table j.right] ++ j.on?.toList.map condition
  | .values rows _ => partsOfRows rows
  | .unnest elements _ _ => elements.map expr
  | .rowsFrom functions _ => functions.map call
  | .lateral t => [table t]

/-- The immediate parts of an assignment. -/
def partsOfAssignment : Assignment → List Part
  | .column _ e => [expr e]
  | .row _ (.row r) => r.map expr
  | .row _ (.query q) => [select q]

/-- The immediate parts of a statement. -/
def partsOfStatement : Statement → List Part
  | .select q => [select q]
  | .insert i =>
    (match i.source with
      | .values rows => partsOfRows rows
      | .query q => [select q]
      | .defaults => []) ++ i.returning.map expr
  | .update u =>
    table u.table :: u.assignments.flatMap partsOfAssignment ++ u.tables.map table ++
      u.filter?.toList.map condition ++ partsOfOrder u.orderBy ++ u.returning.map expr
  | .delete d =>
    table d.table :: d.tables.map table ++ d.filter?.toList.map condition ++
      partsOfOrder d.orderBy ++ d.returning.map expr
  | .createIndex c => c.filter?.toList.map condition
  | .createTable c => c.columns.flatMap fun d => d.default?.toList.map expr
  | .block b => b.statements.map statement
  | .dropIndex _ | .truncate _ | .createSequence _ | .dropSequence _ | .dropTable _ => []

/-- The parts that stand immediately in a part. -/
def parts : Part → List Part
  | expr e => partsOfExpr e
  | call c => c.args.map expr ++ c.filter?.toList.map condition
  | condition c => partsOfCondition c
  | select q => partsOfSelect q
  | table t => partsOfTable t
  | statement stmt => partsOfStatement stmt

/-- A part stands in another at any depth, or is that part. -/
def Inside : Part → Part → Prop :=
  Relation.ReflTransGen fun p q => p ∈ q.parts

end Part

namespace Condition

/-! ### Normal conditions -/

/-- A conjunction or a disjunction has at least two operands, and none of its own kind. -/
def IsFlat : Condition → Prop
  | and cs => 2 ≤ cs.length ∧ ∀ c ∈ cs, ∀ ds, c ≠ and ds
  | or cs => 2 ≤ cs.length ∧ ∀ c ∈ cs, ∀ ds, c ≠ or ds
  | _ => True

/-- Every conjunction and every disjunction in a condition is flat, at whatever depth. -/
def Normal (c : Condition) : Prop :=
  ∀ d, (Part.condition d).Inside (.condition c) → d.IsFlat

/-- A condition is normal if it is flat and everything immediately in it is normal. -/
lemma normal_iff (c : Condition) :
    c.Normal ↔ c.IsFlat ∧ ∀ p ∈ (Part.condition c).parts, ∀ d,
      (Part.condition d).Inside p → d.IsFlat := by
  constructor
  · exact fun h => ⟨h c .refl, fun p hp d hd => h d (hd.tail hp)⟩
  · rintro ⟨hflat, hparts⟩ d hd
    cases hd with
    | refl => exact hflat
    | tail hdp hp => exact hparts _ hp d hdp

/-- A condition that can be joined with others to a normal one. -/
def CanJoin (k : Connective) (c : Condition) : Prop :=
  c.Normal ∧ ∀ ds, c ≠ k.join ds

/-- Conditions joined are normal if there are at least two of them, each of which can be joined. -/
lemma normal_join {k : Connective} {cs : List Condition} :
    (k.join cs).Normal ↔ 2 ≤ cs.length ∧ ∀ c ∈ cs, c.CanJoin k := by
  rw [normal_iff]
  cases k <;>
  · simp only [Part.parts, Part.partsOfCondition, List.forall_mem_map, IsFlat, CanJoin, Normal,
      Connective.join]
    exact ⟨fun ⟨⟨hlen, hkind⟩, hinner⟩ => ⟨hlen, fun c hc => ⟨hinner c hc, hkind c hc⟩⟩,
      fun ⟨hlen, h⟩ => ⟨⟨hlen, fun c hc => (h c hc).2⟩, fun c hc => (h c hc).1⟩⟩

lemma normal_and {cs : List Condition} :
    (and cs).Normal ↔ 2 ≤ cs.length ∧ ∀ c ∈ cs, c.CanJoin .and :=
  normal_join (k := .and)

lemma normal_or {cs : List Condition} :
    (or cs).Normal ↔ 2 ≤ cs.length ∧ ∀ c ∈ cs, c.CanJoin .or :=
  normal_join (k := .or)

lemma normal_always : always.Normal := by
  rw [normal_iff]
  exact ⟨trivial, nofun⟩

lemma normal_never : never.Normal := by
  rw [normal_iff]
  exact ⟨trivial, nofun⟩

lemma normal_append (k : Connective) {cs ds : List Condition} (hlen : 2 ≤ cs.length + ds.length)
    (hcs : ∀ c ∈ cs, c.CanJoin k) (hds : ∀ d ∈ ds, d.CanJoin k) : (k.join (cs ++ ds)).Normal :=
  normal_join.mpr ⟨by rwa [List.length_append], List.forall_mem_append.mpr ⟨hcs, hds⟩⟩

/-- A condition of another kind can be joined alone. -/
lemma canJoin_singleton {k : Connective} {c : Condition} (hc : c.Normal)
    (hkind : ∀ cs, c = k.join cs → False) : ∀ x ∈ [c], x.CanJoin k :=
  List.forall_mem_singleton.mpr ⟨hc, hkind⟩

lemma normal_not {c : Condition} : (not c).Normal ↔ c.Normal := by
  rw [normal_iff]
  simp only [Part.parts, Part.partsOfCondition, List.forall_mem_singleton, IsFlat, true_and, Normal]

/-- Both of two normal conditions, built flat. -/
theorem normal_both {c d : Condition} (hc : c.Normal) (hd : d.Normal) : (both c d).Normal := by
  rw [both.eq_def]
  -- one side asks nothing, both sides are conjunctions, the left or the right one is, or none is
  split
  next => exact hd
  next => exact hc
  next =>
    obtain ⟨hlen, hcs⟩ := normal_and.mp hc
    obtain ⟨-, hds⟩ := normal_and.mp hd
    exact normal_append .and (Nat.le_add_right_of_le hlen) hcs hds
  next _ hkind =>
    obtain ⟨hlen, hcs⟩ := normal_and.mp hc
    exact normal_append .and (Nat.le_add_right_of_le hlen) hcs (canJoin_singleton hd hkind)
  next hkind =>
    obtain ⟨hlen, hds⟩ := normal_and.mp hd
    exact normal_append .and (Nat.le_add_left_of_le hlen) (canJoin_singleton hc hkind) hds
  next _ hkind _ hkind' _ =>
    exact normal_and.mpr
      ⟨Nat.le_refl 2, List.forall_mem_cons.mpr ⟨⟨hc, hkind⟩, canJoin_singleton hd hkind'⟩⟩

/-- One of two normal conditions, built flat. -/
theorem normal_either {c d : Condition} (hc : c.Normal) (hd : d.Normal) : (either c d).Normal := by
  rw [either.eq_def]
  -- the cases of `normal_both`, with disjunctions
  split
  next => exact hd
  next => exact hc
  next =>
    obtain ⟨hlen, hcs⟩ := normal_or.mp hc
    obtain ⟨-, hds⟩ := normal_or.mp hd
    exact normal_append .or (Nat.le_add_right_of_le hlen) hcs hds
  next _ hkind =>
    obtain ⟨hlen, hcs⟩ := normal_or.mp hc
    exact normal_append .or (Nat.le_add_right_of_le hlen) hcs (canJoin_singleton hd hkind)
  next hkind =>
    obtain ⟨hlen, hds⟩ := normal_or.mp hd
    exact normal_append .or (Nat.le_add_left_of_le hlen) (canJoin_singleton hc hkind) hds
  next _ hkind _ hkind' _ =>
    exact normal_or.mpr
      ⟨Nat.le_refl 2, List.forall_mem_cons.mpr ⟨⟨hc, hkind⟩, canJoin_singleton hd hkind'⟩⟩

/-- All conditions of a normal list, built flat. -/
theorem normal_all {cs : List Condition} (h : ∀ c ∈ cs, c.Normal) : (all cs).Normal :=
  List.foldlRecOn cs both normal_always fun _ hc d hd => normal_both hc (h d hd)

/-- One of the conditions of a normal list, built flat. -/
theorem normal_any {cs : List Condition} (h : ∀ c ∈ cs, c.Normal) : (any cs).Normal :=
  List.foldlRecOn cs either normal_never fun _ hc d hd => normal_either hc (h d hd)

end Condition

/-! ### Conditions that are given one after the other -/

/-- A condition that is given after others: it must be met beside them, or it can be met instead. -/
inductive Given where
  | both (c : Condition)
  | either (c : Condition)

namespace Given

/-- The condition so far with the one that is given. The first one is taken as it is. -/
def take (c? : Option Condition) : Given → Option Condition
  | both d => Condition.add c? d
  | either d =>
    match c? with
    | some c => some (c.either d)
    | none => some d

/-- The truth so far with that of the condition that is given: their conjunction or disjunction, the
truth so far coming first. -/
def combine (columns : Bindings) (t? : Option (Evaluated Truth)) :
    Given → Option (Evaluated Truth)
  | both d =>
    match t? with
    | some t => some (do return Truth.all [← t, ← d.eval columns])
    | none => some (d.eval columns)
  | either d =>
    match t? with
    | some t => some (do return Truth.any [← t, ← d.eval columns])
    | none => some (d.eval columns)

/-- The truth of all that is given, from the left to the right. -/
def combineAll (columns : Bindings) (t? : Option (Evaluated Truth)) (gs : List Given) :
    Option (Evaluated Truth) :=
  gs.foldl (fun t? g => g.combine columns t?) t?

lemma combineAll_cons (columns : Bindings) (t? : Option (Evaluated Truth)) (g : Given)
    (gs : List Given) :
    combineAll columns t? (g :: gs) = combineAll columns (g.combine columns t?) gs :=
  rfl

section

variable (columns : Bindings)

lemma map_eval_take (c? : Option Condition) (g : Given) :
    (g.take c?).map (Condition.eval columns) =
      g.combine columns (c?.map (Condition.eval columns)) := by
  cases g with
  | both d =>
    cases c? with
    | none => rfl
    | some c =>
      refine congrArg some ((Condition.eval_both columns c d).trans ?_)
      simpa using Condition.eval_and_append columns [c] [d]
  | either d =>
    cases c? with
    | none => rfl
    | some c =>
      refine congrArg some ((Condition.eval_either columns c d).trans ?_)
      simpa using Condition.eval_or_append columns [c] [d]

/-- What a builder is given, call after call, is as true as the combination of the conditions from
the left to the right. -/
theorem map_eval_foldl {σ α : Type} (condition? : σ → Option Condition) {call : σ → α → σ}
    {given : α → Given} (h : ∀ s a, condition? (call s a) = (given a).take (condition? s)) (s : σ)
    (as : List α) :
    (condition? (as.foldl call s)).map (Condition.eval columns) =
      combineAll columns ((condition? s).map (Condition.eval columns)) (as.map given) := by
  induction as generalizing s with
  | nil => rfl
  | cons a as ih => rw [List.foldl_cons, List.map_cons, combineAll_cons, ih, h, map_eval_take]

end

end Given

/-- A join with one more condition. -/
def Join.given (j : Join) : Given → Join
  | .both c => j.onBoth c
  | .either c => j.onEither c

lemma Join.on?_given (j : Join) (g : Given) : (j.given g).on? = g.take j.on? := by
  cases g with
  | both c => rfl
  | either c =>
    rw [given, onEither]
    cases j.on? <;> rfl

namespace Condition

/-- **Flat conjunctions and disjunctions are exact and stay normal.** They have the truth and the
errors of the plain ones, and are normal if what they are built of is. So the conditions that a
query, a change of rows or a join is given by one call after the other are as true as their
combination from the left to the right. -/
theorem eval_and_normal_built (columns : Bindings) :
    (∀ cs : List Condition, (all cs).eval columns = (and cs).eval columns ∧
      (any cs).eval columns = (or cs).eval columns) ∧
    (∀ c d : Condition, (both c d).eval columns = (and [c, d]).eval columns ∧
      (either c d).eval columns = (or [c, d]).eval columns) ∧
    (∀ cs : List Condition, (∀ c ∈ cs, c.Normal) → (all cs).Normal ∧ (any cs).Normal) ∧
    (∀ c d : Condition, c.Normal → d.Normal → (both c d).Normal ∧ (either c d).Normal) ∧
    (∀ (j : Join) (gs : List Given),
      (gs.foldl Join.given j).on?.map (eval columns) =
        Given.combineAll columns (j.on?.map (eval columns)) gs) ∧
    (∀ (q : Select) (cs : List Condition),
      (cs.foldl Select.filter q).filter?.map (eval columns) =
          Given.combineAll columns (q.filter?.map (eval columns)) (cs.map .both) ∧
        (cs.foldl Select.having q).having?.map (eval columns) =
          Given.combineAll columns (q.having?.map (eval columns)) (cs.map .both)) ∧
    (∀ (u : Update) (cs : List Condition),
      (cs.foldl Update.filter u).filter?.map (eval columns) =
        Given.combineAll columns (u.filter?.map (eval columns)) (cs.map .both)) ∧
    ∀ (d : Delete) (cs : List Condition),
      (cs.foldl Delete.filter d).filter?.map (eval columns) =
        Given.combineAll columns (d.filter?.map (eval columns)) (cs.map .both) := by
  refine ⟨fun cs => ⟨eval_all columns cs, eval_any columns cs⟩,
    fun c d => ⟨eval_both columns c d, eval_either columns c d⟩,
    fun cs h => ⟨normal_all h, normal_any h⟩,
    fun c d hc hd => ⟨normal_both hc hd, normal_either hc hd⟩, fun j gs => ?_,
    fun q cs => ⟨?_, ?_⟩, fun u cs => ?_, fun d cs => ?_⟩
  · simpa using Given.map_eval_foldl columns Join.on? Join.on?_given j gs
  · exact Given.map_eval_foldl columns Select.filter? (fun _ _ => rfl) q cs
  · exact Given.map_eval_foldl columns Select.having? (fun _ _ => rfl) q cs
  · exact Given.map_eval_foldl columns Update.filter? (fun _ _ => rfl) u cs
  · exact Given.map_eval_foldl columns Delete.filter? (fun _ _ => rfl) d cs

/-- A disjunction and a conjunction, both normal: the conjunction takes in the operands of the
second only. -/
theorem eval_and_normal_built_ofNested :
    let c := or [not always, not never]
    let d := and [not never, not always]
    c.Normal ∧ d.Normal ∧ all [c, d] = and [c, not never, not always] ∧ (all [c, d]).Normal := by
  have ht : (not always).Normal := normal_not.mpr normal_always
  have hf : (not never).Normal := normal_not.mpr normal_never
  have hc : (or [not always, not never]).Normal := normal_or.mpr ⟨Nat.le_refl 2, by
    simp [CanJoin, Connective.join, ht, hf]⟩
  have hd : (and [not never, not always]).Normal := normal_and.mpr ⟨Nat.le_refl 2, by
    simp [CanJoin, Connective.join, ht, hf]⟩
  refine ⟨hc, hd, rfl, ((eval_and_normal_built Bindings.none_).2.2.1 _ ?_).1⟩
  simp only [List.forall_mem_cons, hc, hd, true_and]
  exact nofun

end Condition

end Polysql

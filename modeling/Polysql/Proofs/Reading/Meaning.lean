import Mathlib.Data.List.Forall2
import Polysql.Draft.Scope
import Polysql.Proofs.Evaluation.Row
import Polysql.Proofs.Reading.Tree
import Polysql.Query.Build
/-!
What trees mean: the condition that a tree is the text of (`Tree.condition?`), and its truth. A
comparison is one of rows; a value is a row of one. Conditions with one kind of operator between
them mean the junction of their meanings (`Tree.means_chain`).
-/

namespace Polysql

namespace Tree

/-! ### Operands -/

/-- The parts of a name with dots between them. -/
def path? : Tree → Option (List NamePart)
  | part n => some [n]
  | binary .dot l r => do return (← l.path?) ++ (← r.path?)
  | _ => none

/-- The expression that a tree is the text of: a value, a number or a column. -/
def expr? : Tree → Option Expr
  | value c => some (.constant c)
  | word "0" => some (.number 0)
  | word "1" => some (.number 1)
  | t => t.path?.map fun parts => .column ⟨parts⟩

/-- The row that a tree is the text of. -/
def row? : Tree → Option Row
  | group ts => ts.mapM expr?
  | t => t.expr?.map fun e => [e]

/-! ### Conditions -/

/-- The test of a row for NULL, given what stands after `IS`. -/
def isNull? (row : Row) : Tree → Option Condition
  | word "NULL" => some (.rowIsNull row false)
  | unary .not (word "NULL") => some (.rowIsNull row true)
  | _ => none

/-- The bounds of a row, given what stands before the last `AND`. -/
def bounds? (high : Row) : Tree → Option Condition
  | binary (.lower negate) t (unary .symmetric low) => do
    return .rowBetween (← t.row?) (← low.row?) high negate true
  | binary (.lower negate) t low => do
    return .rowBetween (← t.row?) (← low.row?) high negate false
  | _ => none

/-- The membership of a row, given what stands after `IN`. -/
def member? (row : Row) (negate : Bool) : Tree → Option Condition
  | group ts => (ts.mapM row?).map fun list => .rowInList row list negate
  | _ => none

mutual

/-- The condition that a tree is the text of. -/
def condition? : Tree → Option Condition
  | word "TRUE" => some .always
  | word "FALSE" => some .never
  | group ts => conditionOfGroup? ts
  | unary .not t => t.condition?.map .not
  | binary .or l r => do return .or [← l.condition?, ← r.condition?]
  | binary .xor l r => do return .xor (← l.condition?) (← r.condition?)
  | binary .and l r => do return .and [← l.condition?, ← r.condition?]
  | binary (.compare op) l r => do return .rowCompare (← l.row?) op (← r.row?)
  | binary .is l r => do r.isNull? (← l.row?)
  | binary (.isIn negate) l r => do r.member? (← l.row?) negate
  | binary .upper l r => do l.bounds? (← r.row?)
  | _ => none

/-- The condition in parentheses. -/
def conditionOfGroup? : List Tree → Option Condition
  | [t] => t.condition?
  | _ => none

end

end Tree

/-! ### Columns as they are written -/

/-- A name with or without its qualifier. -/
def Name.shown (qualify : Bool) (n : Name) : Name :=
  if qualify then n else n.unqualified

/-- The values of columns, where columns that are written alike have one value. -/
def Bindings.shown (qualify : Bool) (columns : Bindings) : Bindings := fun n =>
  columns (n.shown qualify)

/-- No column that may lose its qualifier lacks a value: the error would show its name. -/
def Bindings.Covers (qualify : Bool) (columns : Bindings) : Prop :=
  qualify = true ∨ ∀ n, columns n ≠ none

/-- What a text yields is what its original yields. -/
def Agrees {α : Type} (qualify : Bool) (f g : Bindings → α) : Prop :=
  ∀ columns : Bindings, columns.Covers qualify → f columns = g (columns.shown qualify)

/-- The tree is the text of a row. -/
def Tree.MeansRow (qualify : Bool) (t : Tree) (r : Row) : Prop :=
  ∃ r', t.row? = some r' ∧ Agrees qualify (evalEach · r') (evalEach · r)

/-- The tree is the text of a condition with some truth. -/
def Tree.Means (qualify : Bool) (t : Tree) (f : Bindings → Evaluated Truth) : Prop :=
  ∃ c, t.condition? = some c ∧ Agrees qualify (fun columns => c.eval columns) f

section

variable {q : Bool}

lemma Tree.Means.congr {t : Tree} {f g : Bindings → Evaluated Truth} (h : t.Means q f)
    (hfg : ∀ columns, f columns = g columns) : t.Means q g := by
  obtain ⟨c, hc, hagrees⟩ := h
  exact ⟨c, hc, fun columns hcovers => (hagrees columns hcovers).trans (hfg _)⟩

/-- A column evaluates by the name it is written with. -/
lemma agrees_column (q : Bool) (n : Name) (type : DataType) :
    Agrees q ((Expr.column (n.shown q)).eval ·) ((Expr.field n type).eval ·) := by
  intro columns hcovers
  simp only [Expr.column, Expr.eval, Bindings.shown]
  cases hv : columns (n.shown q) with
  | some v => rfl
  | none =>
    rcases hcovers with rfl | hall
    · rfl
    · exact absurd hv (hall _)

end

/-! ### Conditions on rows -/

section

variable (columns : Bindings)

/-- Rows of one value compare as the values do. -/
lemma Truth.compareRows_singleton (op : CompareOp) (v w : Value) :
    compareRows op [(v, w)] = compare v op w := by
  have hne : (compare v .eq w).not = compare v .ne w := by
    rw [compare, compare, not, Option.map_map]
    exact Option.map_congr fun o _ => by cases o <;> rfl
  cases op with
  | eq => exact all_singleton _
  | ne => exact (congrArg not (all_singleton _)).trans hne
  | _ => exact (any_singleton _).trans (all_singleton _)

lemma eval_rowCompare_singleton (a : Expr) (op : CompareOp) (b : Expr) :
    (Condition.rowCompare [a] op [b]).eval columns = (Condition.compare a op b).eval columns := by
  rw [eval_compare, Condition.eval, Truth.rowCompare]
  simp only [evalEach, pairUp, checkOutcomes, List.length_cons, List.length_nil, if_pos]
  cases a.eval columns with
  | error e => rfl
  | ok v =>
    cases b.eval columns with
    | error e => rfl
    | ok w => exact congrArg Except.ok (Truth.compareRows_singleton op v w)

lemma eval_rowIsNull_singleton (e : Expr) (negate : Bool) :
    (Condition.rowIsNull [e] negate).eval columns = (Condition.isNull e negate).eval columns := by
  rw [Condition.eval, Condition.eval, evalEach, evalEach, collect_cons]
  cases e.eval columns with
  | error e => rfl
  | ok v => exact congrArg (Except.ok ∘ some) (Bool.and_true _)

lemma eval_rowBetween_singleton (e low high : Expr) (negate symmetric : Bool) :
    (Condition.rowBetween [e] [low] [high] negate symmetric).eval columns =
      (Condition.between e low high negate symmetric).eval columns := by
  rw [eval_between, Condition.eval, Truth.rowBetween]
  simp only [evalEach, pairUp, checkOutcomes, List.length_cons, List.length_nil, if_pos]
  -- the first operand that fails decides, on both sides
  cases e.eval columns with
  | error e => rfl
  | ok v =>
    cases low.eval columns with
    | error e => rfl
    | ok l =>
      cases high.eval columns with
      | error e => rfl
      | ok h =>
        simp only [ok_bind, pure_bind, Truth.compareRows_singleton]
        rfl

end

/-! ### Junctions -/

namespace Truth

/-- Truths in a junction. -/
def join : Junction → List Truth → Truth
  | .and, ts => all ts
  | .or, ts => any ts
  | .xor, ts => ts.foldr xor (some false)

lemma xor_assoc (r s t : Truth) : (r.xor s).xor t = r.xor (s.xor t) := by
  rcases r with _ | _ | _ <;> rcases s with _ | _ | _ <;> rcases t with _ | _ | _ <;> rfl

@[simp] lemma join_singleton (j : Junction) (t : Truth) : join j [t] = t := by
  cases j with
  | and => exact all_singleton t
  | or => exact any_singleton t
  | xor => rcases t with _ | _ | _ <;> rfl

lemma join_append (j : Junction) (ts us : List Truth) :
    join j (ts ++ us) = join j [join j ts, join j us] := by
  cases j with
  | and => exact all_append ts us
  | or => exact any_append ts us
  | xor =>
    simp only [join, List.foldr_cons, List.foldr_nil]
    induction ts with
    | nil =>
      rw [List.nil_append, List.foldr_nil]
      rcases us.foldr xor (some false) with _ | _ | _ <;> rfl
    | cons t ts ih => rw [List.cons_append, List.foldr_cons, ih, List.foldr_cons, xor_assoc]

end Truth

namespace Junction

/-- The operator of a junction. -/
def operator : Junction → Operator
  | and => .and
  | or => .or
  | xor => .xor

/-- Two conditions in a junction. -/
def pair : Junction → Condition → Condition → Condition
  | and, c, d => .and [c, d]
  | or, c, d => .or [c, d]
  | xor, c, d => .xor c d

/-- The truth of conditions in a junction. -/
def eval (j : Junction) (columns : Bindings) (cs : List Condition) : Evaluated Truth :=
  (evalAll columns cs).map (Truth.join j)

section

variable (j : Junction) (columns : Bindings)

lemma eval_singleton (c : Condition) : j.eval columns [c] = c.eval columns := by
  rw [eval, evalAll_cons, evalAll_nil]
  cases c.eval columns with
  | error e => rfl
  | ok t => exact congrArg Except.ok (Truth.join_singleton j t)

lemma eval_append (cs ds : List Condition) :
    j.eval columns (cs ++ ds) = do
      let s ← j.eval columns cs
      let t ← j.eval columns ds
      return Truth.join j [s, t] := by
  rw [eval, eval, eval, evalAll_append]
  cases evalAll columns cs with
  | error e => rfl
  | ok ss =>
    cases evalAll columns ds with
    | error e => rfl
    | ok ts => exact congrArg Except.ok (Truth.join_append j ss ts)

/-- The truth of two conditions in a junction. -/
lemma eval_pair (c d : Condition) :
    (j.pair c d).eval columns = do
      let s ← c.eval columns
      let t ← d.eval columns
      return Truth.join j [s, t] := by
  rw [← eval_singleton j columns c, ← eval_singleton j columns d, ← eval_append]
  cases j with
  | and => exact Condition.eval_and columns [c, d]
  | or => exact Condition.eval_or columns [c, d]
  | xor =>
    -- `XOR` has no list of operands, so its truths are tried
    rw [pair, eval_xor, eval, List.singleton_append, evalAll_cons, evalAll_cons, evalAll_nil]
    cases c.eval columns with
    | error e => rfl
    | ok s =>
      cases d.eval columns with
      | error e => rfl
      | ok t => rcases s with _ | _ | _ <;> rcases t with _ | _ | _ <;> rfl

end

end Junction

namespace Tree

/-- Trees with an operator between them, taken together from the left. -/
def chain (op : Operator) (t : Tree) (ts : List Tree) : Tree :=
  ts.foldl (binary op) t

lemma condition?_binary (j : Junction) {l r : Tree} {c d : Condition}
    (hl : l.condition? = some c) (hr : r.condition? = some d) :
    (binary j.operator l r).condition? = some (j.pair c d) := by
  cases j <;> simp [Junction.operator, Junction.pair, condition?, hl, hr]

variable {q : Bool}

lemma means_binary {j : Junction} {l r : Tree} {cs ds : List Condition}
    (hl : l.Means q (j.eval · cs)) (hr : r.Means q (j.eval · ds)) :
    (binary j.operator l r).Means q (j.eval · (cs ++ ds)) := by
  obtain ⟨c, hc, hagreec⟩ := hl
  obtain ⟨d, hd, hagreed⟩ := hr
  refine ⟨j.pair c d, condition?_binary j hc hd, fun columns hcovers => ?_⟩
  have hevalc := hagreec columns hcovers
  have hevald := hagreed columns hcovers
  simp only at hevalc hevald ⊢
  rw [Junction.eval_pair, Junction.eval_append, hevalc, hevald]

/-- Texts of conditions with one kind of operator between them mean the junction of the
conditions. -/
lemma means_chain {j : Junction} {ts : List Tree} {ds : List Condition}
    (h : List.Forall₂ (fun t d => t.Means q (Condition.eval · d)) ts ds) :
    ∀ {t : Tree} {cs : List Condition}, t.Means q (j.eval · cs) →
      (chain j.operator t ts).Means q (j.eval · (cs ++ ds)) := by
  -- the chain grows on the left, so the induction is for any tree in front
  induction h with
  | nil =>
    intro t cs ht
    rw [List.append_nil]
    exact ht
  | @cons u d us ds hu _ ih =>
    intro t cs ht
    have hu' : u.Means q (j.eval · [d]) :=
      hu.congr fun columns => (Junction.eval_singleton j columns d).symm
    have hchain := ih (means_binary ht hu')
    rw [List.append_assoc] at hchain
    exact hchain

end Tree

end Polysql

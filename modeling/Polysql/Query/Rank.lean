import Polysql.Query
/-!
The rank of a part of a query, which bounds how deep its draft goes. A part that is replaced by a
detour has a higher rank than the detour, and any part has a higher rank than the parts it is made
of; so the rank goes down along every chain of parts and detours, although a detour may be larger
than what it replaces.
-/

namespace Polysql

/-- How much deeper than its arguments the call of a function goes, given their number. -/
def Func.height (f : Func) (args : Nat) : Nat :=
  match f with
  | .least | .greatest => args + 2
  | .nvl2 => 3
  | .log => 4
  | .power | .sinh | .cosh | .tanh | .coth | .replicate => 6
  | _ => 1

/-- How much deeper than its operands a bitwise operation goes. -/
def BitOp.height : BitOp → Nat
  | .and | .or => 1
  | .not | .xor => 3
  | .nand | .nor => 4
  | .xnor => 5
  | .shiftLeft | .shiftRight => 9

mutual

/-- The rank of an expression. -/
def Expr.rank : Expr → Nat
  | .constant _ | .field _ _ | .asterisk _ | .sequence _ _ | .columnDefault => 1
  | .arith _ a b => 1 + max a.rank b.rank
  | .neg e => 1 + e.rank
  | .bit op a b? => op.height + max a.rank (rankOfOption b?)
  | .call c => 1 + c.rank
  | .caseWhen branches otherwise? =>
    1 + max (rankOfBranches branches) (rankOfOption otherwise?)
  | .caseOf operand branches otherwise? =>
    1 + max operand.rank (max (rankOfCases branches) (rankOfOption otherwise?))
  | .cast e _ => 5 + e.rank
  | .condition c => 3 + c.rank
  | .subquery q => 1 + q.rank

/-- The rank of a call. A filter becomes a `CASE` in the place of the arguments. -/
def Call.rank : Call → Nat
  | ⟨f, args, _, filter?⟩ =>
    f.height args.length + (if filter?.isSome then 3 else 0) +
      max (rankOfExprs args) (rankOfFilter filter?)

/-- The rank of a condition. -/
def Condition.rank : Condition → Nat
  | .always | .never => 1
  | .compare a _ b => 1 + max a.rank b.rank
  | .like ⟨text, pattern, _, ignoreCase, _⟩ =>
    (if ignoreCase then 4 else 1) + max text.rank pattern.rank
  | .between e low high _ symmetric =>
    (if symmetric then 3 else 1) + max e.rank (max low.rank high.rank)
  | .inList e list _ => 1 + max e.rank (rankOfExprs list)
  | .inSelect e q _ => 1 + max e.rank q.rank
  | .isNull e _ => 1 + e.rank
  | .isDistinct a b _ => 5 + max a.rank b.rank
  | .rowCompare left _ right => 5 + max (rankOfExprs left) (rankOfExprs right)
  | .rowInList row list _ => 6 + max (rankOfExprs row) (rankOfRows list)
  | .rowInSelect row q _ => 10 + max (rankOfExprs row) q.rank
  | .rowIsNull row _ => 3 + rankOfExprs row
  | .rowBetween row low high _ _ =>
    8 + max (rankOfExprs row) (max (rankOfExprs low) (rankOfExprs high))
  | .hasRows q _ => 1 + q.rank
  | .not c => 1 + c.rank
  | .and cs | .or cs => 1 + rankOfConditions cs
  | .xor c d => 4 + max c.rank d.rank
  | .holds e => 1 + e.rank

/-- The rank of a query. -/
def Select.rank : Select → Nat
  | ⟨with?, distinct?, fields, tables, filter?, groupBy, having?, setOps, orderBy, limit?, _⟩ =>
    2 + (if limit?.isSome then 1 else 0) +
      max (rankOfWith with?) (max (rankOfDistinct distinct?) (max (rankOfFields fields)
        (max (rankOfTables tables) (max (rankOfFilter filter?) (max (rankOfExprs groupBy)
          (max (rankOfFilter having?) (max (rankOfSetOps setOps) (rankOfOrder orderBy))))))))

/-- The rank of a table. -/
def Table.rank : Table → Nat
  | .named _ | .dual => 1
  | .derived q ⟨_, columns⟩ => (if columns.isEmpty then 1 else 6) + q.rank
  | .join ⟨left, right, _, on?, _⟩ => 6 + max left.rank (max right.rank (rankOfFilter on?))
  | .values rows _ => 6 + rankOfRows rows
  | .unnest elements _ _ => 6 + rankOfExprs elements
  | .rowsFrom functions _ => 1 + rankOfCalls functions
  | .lateral t => 1 + t.rank

/-- The highest rank of several expressions. -/
def rankOfExprs : List Expr → Nat
  | [] => 1
  | e :: es => max e.rank (rankOfExprs es)

/-- The highest rank of several rows. -/
def rankOfRows : List (List Expr) → Nat
  | [] => 1
  | r :: rs => max (rankOfExprs r) (rankOfRows rs)

/-- The rank of an expression that may be absent. -/
def rankOfOption : Option Expr → Nat
  | none => 1
  | some e => e.rank

/-- The highest rank of several branches. -/
def rankOfBranches : List (Condition × Expr) → Nat
  | [] => 1
  | (c, e) :: bs => max c.rank (max e.rank (rankOfBranches bs))

/-- The highest rank of several cases. -/
def rankOfCases : List (Expr × Expr) → Nat
  | [] => 1
  | (v, e) :: bs => max v.rank (max e.rank (rankOfCases bs))

/-- The highest rank of several calls. -/
def rankOfCalls : List Call → Nat
  | [] => 1
  | c :: cs => max c.rank (rankOfCalls cs)

/-- The rank of a condition that may be absent. -/
def rankOfFilter : Option Condition → Nat
  | none => 1
  | some c => c.rank

/-- The highest rank of several conditions. -/
def rankOfConditions : List Condition → Nat
  | [] => 1
  | c :: cs => max c.rank (rankOfConditions cs)

/-- The highest rank of what is selected. -/
def rankOfFields : List SelectField → Nat
  | [] => 1
  | ⟨e, _⟩ :: fs => max e.rank (rankOfFields fs)

/-- The highest rank of several tables. -/
def rankOfTables : List Table → Nat
  | [] => 1
  | t :: ts => max t.rank (rankOfTables ts)

/-- The highest rank of the operands of set operations. -/
def rankOfSetOps : List SetOperation → Nat
  | [] => 1
  | ⟨_, _, q⟩ :: os => max q.rank (rankOfSetOps os)

/-- The highest rank of what rows are ordered by. -/
def rankOfOrder : List OrderItem → Nat
  | [] => 1
  | ⟨e, _, _⟩ :: os => max e.rank (rankOfOrder os)

/-- The highest rank of the queries in front. -/
def rankOfWith : Option With → Nat
  | none => 1
  | some ⟨_, ctes⟩ => rankOfCtes ctes

/-- The highest rank of several named queries. -/
def rankOfCtes : List Cte → Nat
  | [] => 1
  | ⟨_, _, q⟩ :: cs => max q.rank (rankOfCtes cs)

/-- The rank of what makes rows equal. -/
def rankOfDistinct : Option Distinct → Nat
  | none | some .all => 1
  | some (.on es) => rankOfExprs es

end

end Polysql

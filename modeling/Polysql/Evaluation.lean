import Polysql.Evaluation.Cast
import Polysql.Evaluation.Function
import Polysql.Evaluation.Pattern
import Polysql.Evaluation.Truth
/-!
The value of an expression and the truth of a condition, as far as they need no database: columns
have the values they are given, and subqueries, sequences and aggregates have none.

Every operation is computed from the values of its parts, so evaluation is a recursion on the tree.
Of several parts that fail, the first one decides the error.
-/

namespace Polysql

/-- The values of columns. They stay as they are while an expression is evaluated, however often a
column is looked up: an operation and the larger expression in its place are compared on such
values. How an evaluation looks columns up one after the other, in an input that this may change, is
in `Polysql.Proofs.Evaluation.Run`. -/
abbrev Bindings := Name → Option Value

/-- No column has a value. -/
def Bindings.none_ : Bindings := fun _ => none

/-- Columns have values by their text: that of the whole name, else that of its last part. -/
def Bindings.ofList (values : List (String × Value)) : Bindings := fun name =>
  (List.lookup name.text values).or (name.last?.bind fun last => List.lookup last values)

/-- The values of two rows side by side. Each value is followed by its partner, and the first one
that is missing decides the error. -/
def pairUp : List Outcome → List Outcome → Evaluated (List (Value × Value))
  | a :: as, b :: bs => do
    let v ← a
    let w ← b
    return (v, w) :: (← pairUp as bs)
  | _, _ => return []

/-- The values of a list, or the first error. -/
def collect (outcomes : List Outcome) : Evaluated (List Value) :=
  outcomes.mapM id

/-- A row has as many values as another. -/
def checkOutcomes (expected actual : List Outcome) : Evaluated Unit :=
  if expected.length = actual.length then .ok ()
  else .error (.rowWidth actual.length expected.length)

namespace Truth

/-- A match with a pattern. -/
def like (l : Like) (text pattern : Value) : Evaluated Truth :=
  if text.isNull || pattern.isNull then
    .ok none
  else
    match text, pattern with
    | .string s, .string p =>
      let found :=
        if l.ignoreCase then Pattern.isMatch l.escape? (Text.toLower s) (Text.toLower p)
        else Pattern.isMatch l.escape? s p
      .ok (some (found != l.negate))
    | _, _ => refuse "LIKE requires string operands"

/-- A value between two others. -/
def within (v low high : Value) : Truth :=
  all [compare v .ge low, compare v .le high]

/-- A value between two others, or between them in the other order if both are allowed. -/
def between (v low high : Value) (negate symmetric : Bool) : Truth :=
  negateIf negate
    (if symmetric then any [within v low high, within v high low] else within v low high)

/-- A value in a list. -/
def inList (v : Value) (list : List Value) (negate : Bool) : Truth :=
  negateIf negate (any (list.map fun w => compare v .eq w))

/-- A row compared with another. -/
def rowCompare (left : List Outcome) (op : CompareOp) (right : List Outcome) :
    Evaluated Truth := do
  checkOutcomes left right
  return compareRows op (← pairUp left right)

/-- A row in a list of rows. -/
def rowInList (row : List Outcome) (list : List (List Outcome)) (negate : Bool) :
    Evaluated Truth := do
  list.forM (checkOutcomes row)
  let pairs ← list.mapM (pairUp row)
  return negateIf negate (any (pairs.map rowsEqual))

/-- A row whose values are all NULL, or all not NULL. -/
def rowIsNull (row : List Value) (negate : Bool) : Truth :=
  some (row.all fun v => v.isNull != negate)

/-- A row between two others. -/
def rowBetween (row low high : List Outcome) (negate symmetric : Bool) : Evaluated Truth := do
  checkOutcomes row low
  checkOutcomes row high
  let lows ← pairUp row low
  let highs ← pairUp row high
  let within (lows highs : List (Value × Value)) :=
    all [compareRows .ge lows, compareRows .le highs]
  let plain := within lows highs
  return negateIf negate (if symmetric then any [plain, within highs lows] else plain)

/-- A value as a truth: a truth value, or an integer, which is true unless it is zero. -/
def ofValue (v : Value) : Evaluated Truth :=
  match v with
  | .null => .ok none
  | .boolean b => .ok (some b)
  | v =>
    match v.toInt64? with
    | some n => .ok (some (n != 0))
    | none => refuse "predicate is not a boolean"

end Truth

mutual

/-- The value of an expression. -/
def Expr.eval (columns : Bindings) : Expr → Outcome
  | .constant c => .ok c.value
  | .field name _ =>
    match columns name with
    | some v => .ok v
    | none => refuse ("no value for field `" ++ name.text ++ "`")
  | .asterisk _ => refuse "cannot evaluate `*`"
  | .arith op a b => do
    let v ← a.eval columns
    let w ← b.eval columns
    v.arith op w
  | .neg e => do (← e.eval columns).negate
  | .bit op a b? => do
    let v ← a.eval columns
    let w ← if op = .not then pure .null else evalOrNull columns b?
    Value.bit op v w
  | .call ⟨f, args, _, _⟩ =>
    if f.isAggregate then
      refuse ("cannot evaluate aggregate `" ++ f.name ++ "`")
    else do
      f.apply (← collect (evalEach columns args))
  | .caseWhen branches otherwise? =>
    evalBranches columns (evalOrNull columns otherwise?) branches
  | .caseOf operand branches otherwise? => do
    evalCases columns (← operand.eval columns) (evalOrNull columns otherwise?) branches
  | .cast e type => do (← e.eval columns).cast type
  | .condition c => return (← c.eval columns).toValue
  | .subquery _ => refuse "cannot evaluate a subquery"
  | .sequence _ _ => refuse "cannot evaluate a sequence"
  | .columnDefault => refuse "cannot evaluate DEFAULT"

/-- The values of several expressions. -/
def evalEach (columns : Bindings) : List Expr → List Outcome
  | [] => []
  | e :: es => e.eval columns :: evalEach columns es

/-- The values of several rows. -/
def evalRows (columns : Bindings) : List (List Expr) → List (List Outcome)
  | [] => []
  | r :: rs => evalEach columns r :: evalRows columns rs

/-- The value of an expression that may be absent; NULL if it is. -/
def evalOrNull (columns : Bindings) : Option Expr → Outcome
  | none => .ok .null
  | some e => e.eval columns

/-- The value of the first branch whose condition is true, or `otherwise`. -/
def evalBranches (columns : Bindings) (otherwise : Outcome) : List (Condition × Expr) → Outcome
  | [] => otherwise
  | (c, e) :: branches => do
    if (← c.eval columns) = some true then e.eval columns
    else evalBranches columns otherwise branches

/-- The value of the first branch that is equal to a value, or `otherwise`. -/
def evalCases (columns : Bindings) (v : Value) (otherwise : Outcome) :
    List (Expr × Expr) → Outcome
  | [] => otherwise
  | (w, e) :: branches => do
    if v.equal? (← w.eval columns) = some true then e.eval columns
    else evalCases columns v otherwise branches

/-- The truth of a condition. -/
def Condition.eval (columns : Bindings) : Condition → Evaluated Truth
  | .always => .ok (some true)
  | .never => .ok (some false)
  | .compare a op b => do
    let v ← a.eval columns
    let w ← b.eval columns
    return Truth.compare v op w
  | .like ⟨text, pattern, negate, ignoreCase, escape?⟩ => do
    let v ← text.eval columns
    let w ← pattern.eval columns
    Truth.like ⟨text, pattern, negate, ignoreCase, escape?⟩ v w
  | .between e low high negate symmetric => do
    let v ← e.eval columns
    let l ← low.eval columns
    let h ← high.eval columns
    return Truth.between v l h negate symmetric
  | .inList e list negate => do
    let v ← e.eval columns
    return Truth.inList v (← collect (evalEach columns list)) negate
  | .isNull e negate => return some ((← e.eval columns).isNull != negate)
  | .isDistinct a b negate => do
    let v ← a.eval columns
    let w ← b.eval columns
    return some ((!v.notDistinct w) != negate)
  | .rowCompare left op right =>
    Truth.rowCompare (evalEach columns left) op (evalEach columns right)
  | .rowInList row list negate =>
    Truth.rowInList (evalEach columns row) (evalRows columns list) negate
  | .rowIsNull row negate => return Truth.rowIsNull (← collect (evalEach columns row)) negate
  | .rowBetween row low high negate symmetric =>
    Truth.rowBetween (evalEach columns row) (evalEach columns low) (evalEach columns high)
      negate symmetric
  | .inSelect _ _ _ | .rowInSelect _ _ _ | .hasRows _ _ => refuse "cannot evaluate a subquery"
  | .not c => return (← c.eval columns).not
  | .and cs => return Truth.all (← evalAll columns cs)
  | .or cs => return Truth.any (← evalAll columns cs)
  | .xor c d => do
    let s ← c.eval columns
    let t ← d.eval columns
    return s.xor t
  | .holds e => do Truth.ofValue (← e.eval columns)

/-- The truths of several conditions, or the first error. -/
def evalAll (columns : Bindings) : List Condition → Evaluated (List Truth)
  | [] => return []
  | c :: cs => do
    let t ← c.eval columns
    return t :: (← evalAll columns cs)

end

end Polysql

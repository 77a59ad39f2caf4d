import Polysql.Error
import Polysql.Query.Build
/-!
Detours: each operation that some engine lacks, spelled out by operations that every engine has. All
of them take over the operands as they are, some more than once, and none of them looks at a
dialect.
-/

namespace Polysql

/-! ### Conditions -/

namespace Condition

/-- `BETWEEN SYMMETRIC` as two plain comparisons with the bounds in either order. A condition that
is not symmetric has no such form. -/
def expandBetween (e low high : Expr) (negate symmetric : Bool) : Option Condition :=
  if symmetric then
    let forward := between e low high negate false
    let backward := between e high low negate false
    some (if negate then and [forward, backward] else or [forward, backward])
  else
    none

/-- `c XOR d` as `(c OR d) AND NOT (c AND d)`. -/
def expandXor (c d : Condition) : Condition :=
  and [or [c, d], not (and [c, d])]

/-- `a IS [NOT] DISTINCT FROM b` as the comparison of a `CASE` that is never NULL. -/
def expandDistinct (a b : Expr) (negate : Bool) : Condition :=
  -- the first branch that holds decides, so the values are compared only if neither is NULL
  let distinct := Expr.caseWhen
    [(and [isNull a false, isNull b false], .number 0),
     (or [isNull a false, isNull b false], .number 1),
     (.equals a b, .number 0)]
    (some (.number 1))
  .equals distinct (.number (if negate then 0 else 1))

/-- A condition as a value: `onTrue` or `onFalse`, and NULL when it is unknown. -/
def toCase (c : Condition) (onTrue onFalse : Expr) : Expr :=
  .caseWhen [(c, onTrue), (not c, onFalse)] none

/-- Two rows are equal if all their values are. -/
def rowsEqual (left right : Row) : Condition :=
  all (List.zipWith equals left right)

/-- One row comes before the other: at the first place where they are not equal. The comparison of
the last values is `op` itself, that of those before is strict. The list `before` holds the
equalities of the values passed so far. -/
def rowsOrdered (op : CompareOp) (before : List Condition) : Row → Row → List Condition
  | [a], [b] => [both (all before) (compare a op b)]
  | a :: left, b :: right =>
    both (all before) (compare a op.strict b) ::
      rowsOrdered op (before ++ [.equals a b]) left right
  | _, _ => []

/-- A comparison of rows of one width, value by value. -/
def rowsCompared (left : Row) (op : CompareOp) (right : Row) : Condition :=
  match op with
  | .eq => rowsEqual left right
  | .ne => not (rowsEqual left right)
  | op => any (rowsOrdered op [] left right)

/-- A row has as many values as another. -/
def checkWidth (expected actual : Row) : Except Error Unit :=
  if expected.length = actual.length then .ok ()
  else .error (.rowWidth actual.length expected.length)

/-- A comparison of rows. -/
def expandRowCompare (left : Row) (op : CompareOp) (right : Row) : Except Error Condition := do
  checkWidth left right
  return rowsCompared left op right

/-- A row in a list of rows: it is equal to one of them, or differs from all. -/
def expandRowIn (row : Row) (list : List Row) (negate : Bool) : Except Error Condition := do
  list.forM (checkWidth row)
  return if negate then all (list.map (rowsCompared row .ne))
    else any (list.map (rowsCompared row .eq))

/-- A row is NULL if all its values are, and is not NULL if none of them is. -/
def expandRowIsNull (row : Row) (negate : Bool) : Condition :=
  all (row.map fun e => isNull e negate)

/-- A row between two others. -/
def expandRowBetween (row low high : Row) (negate symmetric : Bool) : Except Error Condition := do
  checkWidth row low
  checkWidth row high
  let within (low high : Row) := both (rowsCompared row .ge low) (rowsCompared row .le high)
  let plain := within low high
  let c := if symmetric then either plain (within high low) else plain
  return if negate then not c else c

/-- A row in a query: there is a row of the query, under the name `t`, that is equal to it. -/
def expandRowInSelect (row : Row) (q : Select) (negate : Bool) : Except Error Condition :=
  if q.fields.length ≠ row.length then
    .error (.subqueryWidth q.fields.length row.length)
  else
    let t := Name.ofText "t"
    let columns := numberedColumns row.length
    let matching := all ((row.zip columns).map fun (e, c) => .equals (.column (t ++ c)) e)
    let found := (({} : Select).field (.number 1)).table (.derived q ⟨t, columns⟩)
    .ok (hasRows (found.filter matching) negate)

end Condition

/-- A match that ignores case, as a match of both texts in small letters. -/
def Like.expandIgnoreCase (l : Like) : Like :=
  { l with
    text := .callOf .lower [l.text]
    pattern := .callOf .lower [l.pattern]
    ignoreCase := false }

/-- The detour of a condition, for the conditions that have one. Its operands may not allow it. -/
def Condition.expand? : Condition → Option (Except Error Condition)
  | .between e low high negate symmetric => (expandBetween e low high negate symmetric).map .ok
  | .like l => some (.ok (.like l.expandIgnoreCase))
  | .isDistinct a b negate => some (.ok (expandDistinct a b negate))
  | .rowCompare left op right => some (expandRowCompare left op right)
  | .rowInList row list negate => some (expandRowIn row list negate)
  | .rowInSelect row q negate => some (expandRowInSelect row q negate)
  | .rowIsNull row negate => some (.ok (expandRowIsNull row negate))
  | .rowBetween row low high negate symmetric =>
    some (expandRowBetween row low high negate symmetric)
  | .xor c d => some (.ok (expandXor c d))
  | _ => none

/-! ### Bitwise operations -/

namespace Expr

/-- `~e` as `-e - 1`. -/
def complement (e : Expr) : Expr :=
  arith .sub (neg e) (number 1)

/-- `a ^ b` as `(a | b) - (a & b)`. -/
def exclusiveOr (a b : Expr) : Expr :=
  -- no bit is borrowed, for those of `a & b` are among those of `a | b`
  arith .sub (bit .or a (some b)) (bit .and a (some b))

/-- A derived bitwise operation by `&`, `|` and arithmetic. An operand that is missing counts as
NULL. The operations `&` and `|` themselves have no simpler form. -/
def expandBit (op : BitOp) (a : Expr) (b? : Option Expr) : Option Expr :=
  let b := b?.getD null
  let powerOfTwo := callOf .power [number 2, b]
  match op with
  | .and | .or => none
  | .xor => some (exclusiveOr a b)
  | .not => some (complement a)
  | .nand => some (complement (bit .and a (some b)))
  | .nor => some (complement (bit .or a (some b)))
  | .xnor => some (complement (exclusiveOr a b))
  | .shiftLeft => some (arith .mul a powerOfTwo)
  | .shiftRight => some (arith .div a powerOfTwo)

/-- The least or the greatest of some expressions by nested cases: the better one of the first two
goes on with the rest, each on a branch of its own. The number of branches doubles with every
expression. -/
def bestOf (op : CompareOp) (best : Expr) : List Expr → Expr
  | [] => best
  | e :: es =>
    caseWhen [(.compare best op e, bestOf op best es)] (some (bestOf op e es))

end Expr

/-! ### Functions -/

namespace Call

/-- `LEAST` and `GREATEST` as nested cases. -/
def expandLeastGreatest (c : Call) : Option Expr :=
  let nested (op : CompareOp) :=
    match c.args with
    | [] => Expr.null
    | e :: es => Expr.bestOf op e es
  match c.func with
  | .least => some (nested .lt)
  | .greatest => some (nested .gt)
  | _ => none

/-- The hyperbolic functions by exponentials. -/
def expandHyperbolic (c : Call) : Option Expr :=
  match c.args with
  | [] => none
  | x :: _ =>
    let exp (e : Expr) := Expr.callOf .exp [e]
    let square := exp (.arith .mul (.number 2) x)
    match c.func with
    | .sinh => some (.arith .div (.arith .sub (exp x) (exp (.neg x))) (.number 2))
    | .cosh => some (.arith .div (.arith .add (exp x) (exp (.neg x))) (.number 2))
    | .tanh =>
      some (.arith .div (.arith .sub square (.number 1)) (.arith .add square (.number 1)))
    | .coth =>
      some (.arith .div (.arith .add square (.number 1)) (.arith .sub square (.number 1)))
    | _ => none

/-- `power(a, b)` as `exp(ln(a) * b)`. -/
def expandPower (c : Call) : Option Expr :=
  match c.func, c.args with
  | .power, [a, b] => some (.callOf .exp [.arith .mul (.callOf .ln [a]) b])
  | _, _ => none

/-- `log(b, x)` as `ln(x) / ln(b)`. -/
def expandLog (c : Call) : Option Expr :=
  match c.func, c.args with
  | .log, [b, x] => some (.arith .div (.callOf .ln [x]) (.callOf .ln [b]))
  | _, _ => none

/-- The filter of an aggregate moved into its argument, which becomes NULL on the other rows. -/
def expandFilter (c : Call) : Option Call :=
  c.filter?.map fun condition =>
    -- of several arguments only the first is kept
    let arg := if c.isCountStar then .number 1 else c.args.head?.getD .null
    { c with args := [.caseWhen [(condition, arg)] none], filter? := none }

end Call

/-! ### Casts -/

/-- The texts that a cast to a truth value takes for true. -/
def trueTexts : List String := ["1", "y", "yes", "true", "on", "enabled"]

/-- The texts that a cast to a truth value takes for false. -/
def falseTexts : List String := ["0", "n", "no", "false", "off", "disabled"]

namespace Expr

/-- A truth value that is written out. -/
def truth (b : Bool) : Expr :=
  literal (.boolean b)

/-- The cast of a number to a truth value: it is true unless it is zero. -/
def numberAsTruth (e : Expr) : Expr :=
  caseWhen [(.compare e .eq (number 0), truth false), (.compare e .ne (number 0), truth true)] none

/-- The cast of a text to a truth value by the texts that stand for one. -/
def textAsTruth (e : Expr) : Expr :=
  let oneOf (texts : List String) : Condition :=
    .inList (callOf .lower [e]) (texts.map fun s => literal (.string s)) false
  caseWhen [(oneOf trueTexts, truth true), (oneOf falseTexts, truth false)] none

end Expr

end Polysql

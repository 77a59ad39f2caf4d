import Polysql.Query
/-!
Building expressions, conditions and queries. Conjunctions and disjunctions are built flat: an
operand that changes nothing is left out, and operands of the same kind are taken in.
-/

namespace Polysql

/-- `n` as a 32-bit integer. -/
def Value.ofNat (n : Nat) : Value :=
  .int32 (Int32.ofNat n)

namespace Expr

/-- A value that is bound. -/
def bind (v : Value) : Expr :=
  .constant (.ofValue v)

/-- A value that is bound and has a name. -/
def bindNamed (name : String) (v : Value) : Expr :=
  .constant { Constant.ofValue v with name? := some name }

/-- A value that is bound as a given type. -/
def bindTyped (v : Value) (type : DataType) : Expr :=
  .constant { Constant.ofValue v with type }

/-- A value that is written out. -/
def literal (v : Value) : Expr :=
  .constant { Constant.ofValue v with inline := true }

/-- A small integer that is written out. -/
def number (n : Nat) : Expr :=
  literal (.ofNat n)

/-- NULL. -/
def null : Expr :=
  bind .null

/-- A column of unknown type. -/
def column (name : Name) : Expr :=
  .field name .unknown

/-- The call of a function on some arguments. -/
def callOf (func : Func) (args : List Expr) : Expr :=
  .call ⟨func, args, false, none⟩

/-- The expression is NULL as it stands. -/
def isNullLiteral : Expr → Bool
  | constant c => c.value.isNull
  | _ => false

/-- The value, of a constant. -/
def value? : Expr → Option Value
  | constant c => some c.value
  | _ => none

/-- The name, of a column. -/
def fieldName? : Expr → Option Name
  | field name _ => some name
  | _ => none

end Expr

/-- The call is `COUNT(*)`. -/
def Call.isCountStar (c : Call) : Bool :=
  match c.func, c.args with
  | .count, [.asterisk none] => true
  | _, _ => false

namespace Condition

/-- Equality of two expressions. -/
def equals (a b : Expr) : Condition :=
  compare a .eq b

/-- The condition that is always or never true. -/
def ofBool (b : Bool) : Condition :=
  if b then always else never

/-- An expression as a condition. -/
def ofExpr : Expr → Condition
  | .condition c => c
  | e => holds e

/-- Nothing is asked. -/
def isAlways : Condition → Bool
  | always => true
  | _ => false

/-- Nothing is met. -/
def isNever : Condition → Bool
  | never => true
  | _ => false

/-- Both conditions. -/
def both (c d : Condition) : Condition :=
  match c, d with
  | always, d => d
  | c, always => c
  | and cs, and ds => and (cs ++ ds)
  | and cs, d => and (cs ++ [d])
  | c, and ds => and (c :: ds)
  | c, d => and [c, d]

/-- One of the conditions. -/
def either (c d : Condition) : Condition :=
  match c, d with
  | never, d => d
  | c, never => c
  | or cs, or ds => or (cs ++ ds)
  | or cs, d => or (cs ++ [d])
  | c, or ds => or (c :: ds)
  | c, d => or [c, d]

/-- All conditions of a list. -/
def all (cs : List Condition) : Condition :=
  cs.foldl both always

/-- One of the conditions of a list. -/
def any (cs : List Condition) : Condition :=
  cs.foldl either never

/-- A further condition beside one that may be absent. -/
def add (c? : Option Condition) (d : Condition) : Option Condition :=
  match c? with
  | some c => some (both c d)
  | none => some d

end Condition

/-- The column names of some texts. -/
def columnNames (texts : List String) : List Name :=
  texts.map Name.ofText

/-- The numbered columns `c1` to `cn`. -/
def numberedColumns (n : Nat) : List Name :=
  columnNames ((List.range n).map fun i => "c" ++ Nat.repr (i + 1))

namespace Select

/-- A further expression to select. -/
def field (q : Select) (e : Expr) : Select :=
  { q with fields := q.fields ++ [⟨e, none⟩] }

/-- A further expression to select, under a name. -/
def fieldAs (q : Select) (e : Expr) (called : Name) : Select :=
  { q with fields := q.fields ++ [⟨e, some called⟩] }

/-- Further expressions to select. -/
def addFields (q : Select) (es : List Expr) : Select :=
  es.foldl field q

/-- A further table. -/
def table (q : Select) (t : Table) : Select :=
  { q with tables := q.tables ++ [t] }

/-- A further condition on rows. -/
def filter (q : Select) (c : Condition) : Select :=
  { q with filter? := Condition.add q.filter? c }

/-- A further condition on groups. -/
def having (q : Select) (c : Condition) : Select :=
  { q with having? := Condition.add q.having? c }

/-- A further expression that forms groups. -/
def group (q : Select) (e : Expr) : Select :=
  { q with groupBy := q.groupBy ++ [e] }

/-- A further expression to order by. -/
def order (q : Select) (o : OrderItem) : Select :=
  { q with orderBy := q.orderBy ++ [o] }

/-- The number of rows. -/
def limit (q : Select) (n : UInt64) : Select :=
  { q with limit? := some { q.limit?.getD ⟨none, none⟩ with count? := some n } }

/-- The number of rows that are left out before. -/
def offset (q : Select) (n : UInt64) : Select :=
  { q with limit? := some { q.limit?.getD ⟨none, none⟩ with offset? := some n } }

/-- A further query in front. Once one of them is recursive, all count as such. -/
def withQuery (q : Select) (recursive : Bool) (c : Cte) : Select :=
  match q.with? with
  | none => { q with with? := some ⟨recursive, [c]⟩ }
  | some w => { q with with? := some ⟨w.recursive || recursive, w.ctes ++ [c]⟩ }

/-- A further query whose rows are combined with those before it. -/
def combine (q : Select) (op : SetOp) (all : Bool) (r : Select) : Select :=
  { q with setOps := q.setOps ++ [⟨op, all, r⟩] }

/-- The names of what is selected: the given one, or that of a column. What has neither is left
out. -/
def fieldNames (q : Select) : List Name :=
  q.fields.filterMap fun f => f.alias?.or (f.expr.fieldName?.map Name.unqualified)

end Select

namespace Table

/-- The table of a name. -/
def ofName (name : Name) : Table :=
  .named ⟨name, none, []⟩

end Table

end Polysql

import Polysql.Dialect.Literal
import Polysql.Draft.Name
import Polysql.Query.Expansion
import Polysql.Query.Typing
/-!
Drafts of expressions. An operand of arithmetic or of a bitwise operator stands in parentheses when
it is such an operation itself.
-/

namespace Polysql

namespace Draft

/-- A constant: bound, or written out where it or its place asks for it. -/
def constant (s : Scope) (c : Constant) : Draft :=
  if s.inline || c.inline then ofLiteral c (s.dialect.literal c.type c.value)
  else ofPiece (.parameter c)

/-- The type that a cast aims at. -/
def castType (s : Scope) (type : DataType) : Draft :=
  ofText (s.dialect.castName type)

end Draft

/-- The expression is written as two operands around an operator. -/
def Expr.isBinary : Expr → Bool
  | .arith _ _ _ => true
  | .bit _ _ right? => right?.isSome
  | _ => false

/-- The function that a family has for a bitwise operation, when it has functions for them. -/
def Family.bitFunction? : Family → Option (BitOp → Option String)
  | .h2 | .hsqldb | .db2 | .hana | .snowflake => some fun
    | .and => some "BITAND"
    | .or => some "BITOR"
    | .xor => some "BITXOR"
    | .not => some "BITNOT"
    | _ => none
  | .firebird => some fun
    | .and => some "BIN_AND"
    | .or => some "BIN_OR"
    | .xor => some "BIN_XOR"
    | .not => some "BIN_NOT"
    | .shiftLeft => some "BIN_SHL"
    | .shiftRight => some "BIN_SHR"
    | _ => none
  | .trino => some fun
    | .and => some "bitwise_and"
    | .or => some "bitwise_or"
    | .xor => some "bitwise_xor"
    | .not => some "bitwise_not"
    | .shiftLeft => some "bitwise_left_shift"
    | .shiftRight => some "bitwise_right_shift"
    | _ => none
  | .clickHouse => some fun
    | .and => some "bitAnd"
    | .or => some "bitOr"
    | .xor => some "bitXor"
    | .not => some "bitNot"
    | .shiftLeft => some "bitShiftLeft"
    | .shiftRight => some "bitShiftRight"
    | _ => none
  | _ => none

/-- The sign of a bitwise operation on a family. -/
def Family.bitSign? (f : Family) : BitOp → Option String
  | .and => some "&"
  | .or => some "|"
  | .not => some "~"
  | .xor =>
    match f with
    | .postgres | .yugabyteDb | .redshift => some "#"
    | .sqlite | .duckDb => none
    | _ => some "^"
  | .shiftLeft => if f = .sqlServer ∨ f = .sybase then none else some "<<"
  | .shiftRight => if f = .sqlServer ∨ f = .sybase then none else some ">>"
  | .nand | .nor | .xnor => none

/-- The family takes remainders with a function. -/
def Family.hasModFunction : Family → Bool
  | .oracle | .db2 | .firebird | .derby => true
  | _ => false

namespace Writers

/-- An operand of an operator. -/
def operand (w : Writers) (s : Scope) (e : Expr) : Draft :=
  if e.isBinary then "(" ++ w.expr s e ++ ")" else w.expr s e

/-- Arithmetic. -/
def arith (w : Writers) (s : Scope) (op : ArithOp) (a b : Expr) : Draft :=
  if op = .mod ∧ s.family.hasModFunction then
    "MOD(" ++ w.operand s a ++ ", " ++ w.operand s b ++ ")"
  else
    w.operand s a ++ " " ++ op.sign ++ " " ++ w.operand s b

/-- The negative of an expression. -/
def neg (w : Writers) (s : Scope) (e : Expr) : Draft :=
  match e with
  | .field _ _ => "-" ++ w.expr s e
  | _ => "-(" ++ w.expr s e ++ ")"

/-- A bitwise operation in terms of simpler ones. -/
def bitExpanded (w : Writers) (s : Scope) (op : BitOp) (a : Expr) (b? : Option Expr) : Draft :=
  match Expr.expandBit op a b? with
  | some e => w.expr s e
  | none => s.refuse "bitwise operators"

/-- A bitwise operation on Oracle, which has the conjunction only: `a | b` is `a + b - (a & b)`. -/
def bitOracle (w : Writers) (s : Scope) (op : BitOp) (a : Expr) (b? : Option Expr) : Draft :=
  match op, b? with
  | .and, some b => "BITAND(" ++ w.operand s a ++ ", " ++ w.operand s b ++ ")"
  | .or, some b =>
    "(" ++ w.operand s a ++ " + " ++ w.operand s b ++ " - BITAND(" ++ w.operand s a ++ ", " ++
      w.operand s b ++ "))"
  | _, _ => w.bitExpanded s op a b?

/-- A bitwise operation by a sign. -/
def bitSigned (w : Writers) (s : Scope) (op : BitOp) (a : Expr) (b? : Option Expr) : Draft :=
  match s.family.bitSign? op, b? with
  | none, _ => w.bitExpanded s op a b?
  | some sign, some b => w.operand s a ++ " " ++ sign ++ " " ++ w.operand s b
  | some sign, none => sign ++ w.operand s a

/-- A bitwise operation. -/
def bit (w : Writers) (s : Scope) (op : BitOp) (a : Expr) (b? : Option Expr) : Draft :=
  if op = .nand ∨ op = .nor ∨ op = .xnor then
    w.bitExpanded s op a b?
  else
    match s.family with
    | .derby => s.refuse "bitwise operators"
    | .oracle => w.bitOracle s op a b?
    | family =>
      match family.bitFunction? with
      | none => w.bitSigned s op a b?
      | some name? =>
        match name? op with
        | some name => name ++ "(" ++ w.exprs s (a :: b?.toList) ++ ")"
        | none => w.bitExpanded s op a b?

/-- The end of a `CASE`. -/
def caseEnd (w : Writers) (s : Scope) (otherwise? : Option Expr) : Draft :=
  Draft.ofOption (fun e => " ELSE " ++ w.expr s e) otherwise? ++ " END"

/-- A `CASE` on conditions. -/
def caseWhen (w : Writers) (s : Scope) (branches : List (Condition × Expr))
    (otherwise? : Option Expr) : Draft :=
  "CASE" ++
    Draft.concat (branches.map fun (c, e) =>
      " WHEN " ++ w.condition s c ++ " THEN " ++ w.expr s e) ++
    w.caseEnd s otherwise?

/-- A `CASE` on values. -/
def caseOf (w : Writers) (s : Scope) (operand : Expr) (branches : List (Expr × Expr))
    (otherwise? : Option Expr) : Draft :=
  "CASE " ++ w.expr s operand ++
    Draft.concat (branches.map fun (v, e) =>
      " WHEN " ++ w.expr s v ++ " THEN " ++ w.expr s e) ++
    w.caseEnd s otherwise?

/-- A cast as the engine has it. Derby casts numbers to texts and texts to doubles only by way of a
third type. -/
def castDirect (w : Writers) (s : Scope) (e : Expr) (type : DataType) : Draft :=
  if s.family = .derby ∧ e.type.isNumeric ∧ type.isString then
    "TRIM(CAST(CAST(" ++ w.expr s e ++ " AS CHAR(38)) AS " ++ Draft.castType s type ++ "))"
  else if s.family = .derby ∧ e.type.isString ∧ type.isFloat then
    "CAST(CAST(" ++ w.expr s e ++ " AS DECIMAL) AS " ++ Draft.castType s type ++ ")"
  else
    "CAST(" ++ w.expr s e ++ " AS " ++ Draft.castType s type ++ ")"

/-- A cast. Where there is none to truth values, numbers and texts are compared instead. -/
def cast (w : Writers) (s : Scope) (e : Expr) (type : DataType) : Draft :=
  if type.isBoolean && !s.has Feature.booleanCasts && e.type.isNumeric then
    w.expr s e.numberAsTruth
  else if type.isBoolean && !s.has Feature.booleanCasts && e.type.isString then
    w.expr s e.textAsTruth
  else
    w.castDirect s e type

/-- A condition as a value. -/
def conditionValue (w : Writers) (s : Scope) (c : Condition) : Draft :=
  if s.has Feature.booleanValues then
    "(" ++ w.condition s c ++ ")"
  else
    w.expr s (c.toCase (.truth true) (.truth false))

/-- Access to a sequence where it is a function: the name of the sequence is handed over as a
text. -/
def sequenceCall (op : SequenceOp) (name : Name) : Draft :=
  let function := match op with
    | .next => "nextval('"
    | .current => "currval('"
  function ++ Draft.embed .quoted (Draft.qualified name) ++ "')"

/-- Access to a sequence. -/
def sequence (s : Scope) (op : SequenceOp) (name : Name) : Draft :=
  let n := Draft.qualified name
  if !s.has Feature.sequences then s.refuse "sequences"
  else if s.has Feature.postgresLike then sequenceCall op name
  else match s.family, op with
    | .oracle, .next => n ++ ".nextval"
    | .oracle, .current => n ++ ".currval"
    | .firebird, .next =>
      if s.dialect = .firebird2_5 then "GEN_ID(" ++ n ++ ", 1)" else "NEXT VALUE FOR " ++ n
    | .firebird, .current => "GEN_ID(" ++ n ++ ", 0)"
    | _, .next => "NEXT VALUE FOR " ++ n
    | .h2, .current | .hsqldb, .current => "CURRENT VALUE FOR " ++ n
    | .db2, .current | .mariaDb, .current => "PREVIOUS VALUE FOR " ++ n
    | _, .current => s.refuse "CURRVAL"

/-- An expression, by means of writers for its parts. -/
def draftExpr (w : Writers) (s : Scope) : Expr → Draft
  | .constant c => Draft.constant s c
  | .field name _ => Draft.column s name
  | .asterisk none => "*"
  | .asterisk (some table) => Draft.column s table ++ ".*"
  | .arith op a b => w.arith s op a b
  | .neg e => w.neg s e
  | .bit op a b? => w.bit s op a b?
  | .call c => w.call s c
  | .caseWhen branches otherwise? => w.caseWhen s branches otherwise?
  | .caseOf operand branches otherwise? => w.caseOf s operand branches otherwise?
  | .cast e type => w.cast s e type
  | .condition c => w.conditionValue s c
  | .subquery q => w.subquery s q
  | .sequence op name => sequence s op name
  | .columnDefault => "DEFAULT"

end Writers

end Polysql

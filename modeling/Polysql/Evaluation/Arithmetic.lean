import Polysql.Evaluation.Outcome
import Polysql.Operator
/-!
Arithmetic and bitwise operations on values. Doubles take precedence over decimals, and decimals
over integers. Integer arithmetic is exact in 64 bits or fails, and stays in 32 bits when both
operands and the result fit. NULL makes every result NULL.
-/

namespace Polysql

/-- The integer in 64 bits, if it fits. -/
def Int64.ofInt? (n : Int) : Option Int64 :=
  if Int64.minValue.toInt ≤ n ∧ n ≤ Int64.maxValue.toInt then some (.ofInt n) else none

/-- The integer in 32 bits, if it fits. -/
def Int32.ofInt? (n : Int) : Option Int32 :=
  if Int32.minValue.toInt ≤ n ∧ n ≤ Int32.maxValue.toInt then some (.ofInt n) else none

namespace ArithOp

/-- The operation on integers of 64 bits. Division truncates; it fails for the divisor zero, and
like its remainder when the quotient does not fit. -/
def onIntegers? (op : ArithOp) (a b : Int64) : Option Int64 :=
  let m := a.toInt
  let n := b.toInt
  match op with
  | add => Int64.ofInt? (m + n)
  | sub => Int64.ofInt? (m - n)
  | mul => Int64.ofInt? (m * n)
  | div => if n = 0 then none else Int64.ofInt? (m.tdiv n)
  | mod =>
    if n = 0 then none
    else (Int64.ofInt? (m.tdiv n)).map fun _ => .ofInt (m.tmod n)

/-- The operation on decimals. -/
def onDecimals? (op : ArithOp) (a b : Decimal) : Option Decimal :=
  match op with
  | add => a.add? b
  | sub => a.sub? b
  | mul => a.mul? b
  | div => a.div? b
  | mod => a.rem? b

/-- The operation on doubles. -/
def onDoubles (op : ArithOp) (a b : Float) : Float :=
  match op with
  | add => a + b
  | sub => a - b
  | mul => a * b
  | div => a / b
  | mod => Binary64.remainder a b

end ArithOp

namespace Value

/-- A result that may be missing, with the reason for it. -/
def orFail (message : String) (v? : Option Value) : Evaluated Value :=
  match v? with
  | some v => .ok v
  | none => .error (.evaluation message)

/-- The result of an operation on integers, in 32 bits if both operands are and it fits. -/
def ofInteger (a b : Value) (n : Int64) : Value :=
  match a, b, Int32.ofInt? n.toInt with
  | int32 _, int32 _, some m => int32 m
  | _, _, _ => int64 n

/-- An arithmetic operation on two numbers. -/
def arithNumbers (op : ArithOp) (a b : Value) : Evaluated Value :=
  match a, b with
  | double _, _ | _, double _ =>
    orFail "numeric overflow" do
      return double (op.onDoubles (← a.toFloat?) (← b.toFloat?))
  | decimal _, _ | _, decimal _ =>
    orFail "decimal overflow or division by zero" do
      return decimal (← op.onDecimals? (← a.toDecimal?) (← b.toDecimal?))
  | _, _ =>
    orFail "integer overflow or division by zero" do
      return ofInteger a b (← op.onIntegers? (← a.toInt64?) (← b.toInt64?))

/-- An arithmetic operation on two values. -/
def arith (op : ArithOp) (a b : Value) : Evaluated Value :=
  if a.isNull || b.isNull then
    .ok null
  else if !a.isNumeric || !b.isNumeric then
    .error (.evaluation ("arithmetic `" ++ op.sign ++ "` requires numeric operands"))
  else
    arithNumbers op a b

/-- The negative of a value. -/
def negate (a : Value) : Evaluated Value :=
  arith .sub (int32 0) a

/-- A bitwise operation on two integers. -/
def bitwise (op : Int64 → Int64 → Int64) (a b : Value) : Evaluated Value :=
  if a.isNull || b.isNull then
    .ok null
  else
    match a.toInt64?, b.toInt64? with
    | some m, some n => .ok (int64 (op m n))
    | _, _ => .error (.evaluation "bitwise operands must be integers")

/-- `a & b`. -/
def bitAnd : Value → Value → Evaluated Value :=
  bitwise (· &&& ·)

/-- `a | b`. -/
def bitOr : Value → Value → Evaluated Value :=
  bitwise (· ||| ·)

/-- `a ^ b`, computed as `(a | b) - (a & b)`. -/
def bitXor (a b : Value) : Evaluated Value := do
  arith .sub (← bitOr a b) (← bitAnd a b)

/-- `~a`, computed as `-a - 1`. -/
def bitNot (a : Value) : Evaluated Value := do
  arith .sub (← a.negate) (int32 1)

/-- The power of two numbers. NULL makes it NULL. -/
def power (a b : Value) : Evaluated Value :=
  if a.isNull || b.isNull then
    .ok null
  else
    orFail "`power` expects a number" do
      return double ((← a.toFloat?).pow (← b.toFloat?))

/-- A bitwise operation on two values; the complement does not look at the second. -/
def bit (op : BitOp) (a b : Value) : Evaluated Value := do
  match op with
  | .and => bitAnd a b
  | .or => bitOr a b
  | .xor => bitXor a b
  | .not => bitNot a
  | .nand => bitNot (← bitAnd a b)
  | .nor => bitNot (← bitOr a b)
  | .xnor => bitNot (← bitXor a b)
  | .shiftLeft => arith .mul a (← power (int32 2) b)
  | .shiftRight => arith .div a (← power (int32 2) b)

end Value

end Polysql

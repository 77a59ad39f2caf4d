import Polysql.Evaluation.Arithmetic
import Polysql.Func
import Polysql.Text.Blank
import Polysql.Text.Case
import Polysql.Value.Order
/-!
What functions do to values. Most of them yield NULL as soon as an argument is NULL; those that
choose among their arguments look at NULL themselves. Those that make a text out of many copies of
another panic where there can be no such text, and a few operations on integers panic where the
result does not fit.
-/

namespace Polysql

/-- A text brought to a length: its beginning when it is longer, and otherwise filled up, at the
start or at the end. An empty filling leaves it as it is. -/
def padded (atStart : Bool) (text : List Char) (length : Nat) (fill : List Char) : List Char :=
  if length ≤ text.length then text.take length
  else if fill.isEmpty then text
  else
    let padding := Text.cycled fill (length - text.length)
    if atStart then padding ++ text else text ++ padding

/-- The bytes of a text brought to a length, counted without making the text. -/
def paddedBytes (text : List Char) (length : Nat) (fill : List Char) : Nat :=
  if length ≤ text.length then Text.bytes (text.take length)
  else if fill.isEmpty then Text.bytes text
  else
    let lack := length - text.length
    Text.bytes text +
      (lack / fill.length * Text.bytes fill + Text.bytes (fill.take (lack % fill.length)))

namespace Func

/-- The arguments of a call, none of which is NULL. -/
abbrev Args := List Value

/-- The argument at a place as a number. -/
def number (f : Func) (args : Args) (i : Nat) : Evaluated Float :=
  match args[i]?.bind Value.toFloat? with
  | some x => .ok x
  | none => .error (.evaluation ("`" ++ f.name ++ "` expects a number"))

/-- The argument at a place as a text. -/
def text (f : Func) (args : Args) (i : Nat) : Evaluated String :=
  match args[i]?.bind Value.toString? with
  | some s => .ok s
  | none => .error (.evaluation ("`" ++ f.name ++ "` expects a string"))

/-- The argument at a place as a count: a number without its fraction, and zero if it is
negative. -/
def countOf (f : Func) (args : Args) (i : Nat) : Evaluated Nat :=
  (f.number args i).map fun x => (Binary64.truncateTo 0 (UInt64.size - 1) x).toNat

/-- What the argument at a place is read as, or something else if there is none. -/
def readOr {α : Type} (args : Args) (i : Nat) (otherwise : α) (read : Evaluated α) : Evaluated α :=
  if i < args.length then read else .ok otherwise

/-- A function of one number. -/
def onNumber (f : Func) (args : Args) (g : Float → Float) : Evaluated Value :=
  (f.number args 0).map fun x => .double (g x)

/-- A function of one text. -/
def onText (f : Func) (args : Args) (g : String → String) : Evaluated Value :=
  (f.text args 0).map fun s => .string (g s)

/-- A single integer stays as it is under rounding; other numbers are rounded as doubles. -/
def rounded (f : Func) (args : Args) (g : Float → Float) : Evaluated Value :=
  match args with
  | [.int32 n] => .ok (.int32 n)
  | [.int64 n] => .ok (.int64 n)
  | _ => f.onNumber args g

/-- The amount of a number. That of the smallest integer is none of its width. -/
def amount (args : Args) : Evaluated Value :=
  match args with
  | [.int32 n] =>
    if n = Int32.minValue then .error (.panic "attempt to negate with overflow")
    else .ok (.int32 (if n < 0 then -n else n))
  | [.int64 n] =>
    if n = Int64.minValue then .error (.panic "attempt to negate with overflow")
    else .ok (.int64 (if n < 0 then -n else n))
  | [.decimal d] => .ok (.decimal d.abs)
  | _ => abs.onNumber args Float.abs

/-- A number rounded to places after the point, a half away from zero. -/
def roundPlaces (args : Args) : Evaluated Value := do
  let places ← readOr args 1 0 (round.number args 1)
  let factor := Float.pow 10 places
  let x ← round.number args 0
  return .double ((x * factor).round / factor)

/-- The sign of a number. -/
def signOf (args : Args) : Evaluated Value :=
  (sign.number args 0).map fun x => .int32 (if 0 < x then 1 else if x < 0 then -1 else 0)

/-- The better of two values, the first unless the second is strictly better. -/
def better (wanted : Ordering) (best v : Value) : Evaluated Value :=
  match v.compare? best with
  | none => .error (.evaluation "arguments are not comparable")
  | some o => .ok (if o = wanted then v else best)

/-- The least or the greatest argument; NULL if there is none. -/
def extreme (wanted : Ordering) (args : Args) : Evaluated Value :=
  match args with
  | [] => .ok .null
  | v :: vs => vs.foldlM (better wanted) v

/-- The texts one after the other. -/
def concatenated (args : Args) : Evaluated Value := do
  let parts ← (List.range args.length).mapM (concat.text args)
  return .string (Text.joined "" parts)

/-- An integer less one. -/
def predecessor (n : Int64) : Evaluated Int64 :=
  if n = Int64.minValue then .error (.panic "attempt to subtract with overflow") else .ok (n - 1)

/-- An integer more one. -/
def successor (n : Int32) : Evaluated Int32 :=
  if n = Int32.maxValue then .error (.panic "attempt to add with overflow") else .ok (n + 1)

/-- The part of a text from a character, counted from 1, on. A start before the text counts as its
first character. -/
def partOf (args : Args) : Evaluated Value := do
  let s ← substring.text args 0
  let start ← substring.number args 1
  let first ← predecessor (Binary64.toInt64 start)
  let length ← readOr args 2 s.length (substring.countOf args 2)
  return .string (String.ofList ((s.toList.drop first.toInt.toNat).take length))

/-- A text with all occurrences of another replaced. -/
def replaced (args : Args) : Evaluated Value := do
  let s ← replace.text args 0
  let part ← replace.text args 1
  let by_ ← replace.text args 2
  let all := Text.replaceAll s part by_
  checkRoom all.utf8ByteSize
  return .string all

/-- A text several times over. -/
def replicated (args : Args) : Evaluated Value := do
  let s ← replicate.text args 0
  let n ← replicate.countOf args 1
  checkRoom (n * s.utf8ByteSize)
  return .string (Text.repeated s n)

/-- A text brought to a length, with blanks unless another filling is given. -/
def pad (f : Func) (args : Args) : Evaluated Value := do
  let s ← f.text args 0
  let n ← f.countOf args 1
  let fill ← readOr args 2 " " (f.text args 2)
  checkRoom (paddedBytes s.toList n fill.toList)
  return .string (String.ofList (padded (f = padStart) s.toList n fill.toList))

/-- The first characters of a text. -/
def firstPart (args : Args) : Evaluated Value := do
  let s ← left.text args 0
  let n ← left.countOf args 1
  return .string (String.ofList (s.toList.take n))

/-- The last characters of a text. -/
def lastPart (args : Args) : Evaluated Value := do
  let s ← right.text args 0
  let n ← right.countOf args 1
  return .string (String.ofList (s.toList.drop (s.length - n)))

/-- Where a text occurs in another, counted from 1; zero if it does not. -/
def positionOf (args : Args) : Evaluated Value := do
  let part ← position.text args 0
  let s ← position.text args 1
  match Text.positionIn part.toList s.toList with
  | some n => return .int32 (← successor (Int32.ofNat n))
  | none => return .int32 0

/-- The value of a function whose arguments are not NULL. -/
def applyStrict (f : Func) (args : Args) : Evaluated Value :=
  match f with
  | abs => amount args
  | ceil => ceil.rounded args Float.ceil
  | floor => floor.rounded args Float.floor
  | round => roundPlaces args
  | sqrt => f.onNumber args Float.sqrt
  | exp => f.onNumber args Float.exp
  | ln => f.onNumber args Float.log
  | log => do
    let x ← f.number args 1
    let b ← f.number args 0
    return .double (x.log / b.log)
  | power => do
    let a ← f.number args 0
    let b ← f.number args 1
    return .double (a.pow b)
  | sign => signOf args
  | sin => f.onNumber args Float.sin
  | cos => f.onNumber args Float.cos
  | tan => f.onNumber args Float.tan
  | sinh => f.onNumber args Float.sinh
  | cosh => f.onNumber args Float.cosh
  | tanh => f.onNumber args Float.tanh
  | coth => f.onNumber args fun x => 1 / x.tanh
  | least => extreme .lt args
  | greatest => extreme .gt args
  | upper => f.onText args Text.toUpper
  | lower => f.onText args Text.toLower
  | trim => f.onText args Text.trim
  | trimStart => f.onText args Text.trimStart
  | trimEnd => f.onText args Text.trimEnd
  | charLength => (f.text args 0).map fun s => .int32 (Int32.ofNat s.length)
  | concat => concatenated args
  | substring => partOf args
  | replace => replaced args
  | replicate => replicated args
  | padStart | padEnd => f.pad args
  | left => firstPart args
  | right => lastPart args
  | position => positionOf args
  | _ => .error (.evaluation ("cannot evaluate `" ++ f.name ++ "`"))

/-- The value of a function of some arguments. -/
def apply (f : Func) (args : List Value) : Evaluated Value :=
  match f with
  | coalesce | nvl => .ok ((args.find? fun v => !v.isNull).getD .null)
  | nvl2 =>
    match args with
    | [v, present, absent] => .ok (if v.isNull then absent else present)
    | _ => .error (.evaluation "NVL2 takes three arguments")
  | nullIf =>
    match args with
    | [a, b] => .ok (if a.equal? b = some true then .null else a)
    | _ => .error (.evaluation "NULLIF takes two arguments")
  -- the functions above look at NULL themselves
  | f => if args.any Value.isNull then .ok .null else f.applyStrict args

end Func

end Polysql

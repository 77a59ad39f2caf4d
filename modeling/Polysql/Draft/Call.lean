import Polysql.Draft.Expr
/-!
Drafts of function calls. Most functions go by their name in capitals; the others go by another
name, take their arguments in another order, or are spelled out by functions that the engine has.
-/

namespace Polysql

/-- A call with a number of arguments that its function does not take. -/
def Error.arity (c : Call) : Error :=
  .invalidStatement
    ("wrong number of arguments to " ++ c.func.name ++ ": " ++ Nat.repr c.args.length)

/-- The name of a function in capitals. -/
def Func.upperName (f : Func) : String :=
  Text.toUpper f.name

namespace Family

/-- SQL Server and its ancestor. -/
def isSqlServerLike : Family → Bool
  | .sqlServer | .sybase => true
  | _ => false

/-- The function that counts the characters of a text. -/
def lengthFunction : Family → String
  | .sqlServer | .sybase => "LEN"
  | .oracle | .sqlite | .derby | .db2 => "LENGTH"
  | _ => "CHAR_LENGTH"

/-- The function that replaces NULL. -/
def nvlFunction : Family → String
  | .oracle | .db2 => "NVL"
  | .sqlServer | .sybase => "ISNULL"
  | .mySql | .mariaDb | .sqlite => "IFNULL"
  | _ => "COALESCE"

/-- A random number. -/
def random : Family → String
  | .oracle => "DBMS_RANDOM.VALUE"
  | .mySql | .mariaDb | .sqlServer | .sybase | .h2 | .hsqldb | .db2 | .firebird | .hana => "RAND()"
  | _ => "RANDOM()"

end Family

namespace Writers

/-- The arguments of a call, with what an aggregate says about its rows. -/
def arguments (w : Writers) (s : Scope) (c : Call) : Draft :=
  "(" ++ Draft.onlyIf c.distinct "DISTINCT " ++ w.exprs s c.args ++ ")" ++
    Draft.ofOption (fun filter => " FILTER (WHERE " ++ w.condition s filter ++ ")") c.filter?

/-- A call by a name. -/
def callNamed (w : Writers) (s : Scope) (name : String) (c : Call) : Draft :=
  name ++ w.arguments s c

/-- A call that is spelled out. -/
def callExpanded (w : Writers) (s : Scope) (expanded? : Option Expr) : Draft :=
  match expanded? with
  | some e => w.expr s e
  | none => .fail (.invalidStatement "wrong number of function arguments")

/-- A logarithm. -/
def log (w : Writers) (s : Scope) (c : Call) : Draft :=
  match c.args with
  | [base, x] =>
    if s.has Feature.logWithBase then w.callNamed s "LOG" c
    else if s.family = .sqlServer then "LOG(" ++ w.expr s x ++ ", " ++ w.expr s base ++ ")"
    else w.callExpanded s c.expandLog
  | _ => .fail (.arity c)

/-- The least or the greatest of the arguments. -/
def leastGreatest (w : Writers) (s : Scope) (c : Call) : Draft :=
  let least := c.func = .least
  match c.args with
  | [] => .fail (.arity c)
  | [e] => w.expr s e
  | _ =>
    if s.has Feature.leastGreatest then w.callNamed s c.func.upperName c
    else match s.family with
      | .sqlite => w.callNamed s (if least then "MIN" else "MAX") c
      | .firebird => w.callNamed s (if least then "MINVALUE" else "MAXVALUE") c
      | _ => w.callExpanded s c.expandLeastGreatest

/-- The trimming of both sides of a text. -/
def trim (w : Writers) (s : Scope) (c : Call) : Draft :=
  if s.has Feature.withoutTrim then
    match c.args with
    | [e] => "LTRIM(RTRIM(" ++ w.expr s e ++ "))"
    | _ => .fail (.arity c)
  else
    w.callNamed s c.func.upperName c

/-- Texts one after the other. -/
def concat (w : Writers) (s : Scope) (c : Call) : Draft :=
  match c.args with
  | [e] => w.expr s e
  | args =>
    match s.family with
    | .mySql | .mariaDb | .sqlServer => w.callNamed s "CONCAT" c
    | .sybase => "(" ++ Draft.separated " + " (args.map (w.expr s)) ++ ")"
    | _ => "(" ++ Draft.separated " || " (args.map (w.expr s)) ++ ")"

/-- A part of a text. -/
def substringOf (w : Writers) (s : Scope) (c : Call) (e start : Expr) (length? : Option Expr) :
    Draft :=
  match s.family with
  | .oracle | .sqlite | .db2 | .derby => w.callNamed s "SUBSTR" c
  | .sqlServer | .sybase =>
    let length := match length? with
      | some n => w.expr s n
      | none => "LEN(" ++ w.expr s e ++ ")"
    "SUBSTRING(" ++ w.expr s e ++ ", " ++ w.expr s start ++ ", " ++ length ++ ")"
  | .postgres | .yugabyteDb | .redshift | .firebird =>
    "SUBSTRING(" ++ w.expr s e ++ " FROM " ++ w.expr s start ++
      Draft.ofOption (fun n => " FOR " ++ w.expr s n) length? ++ ")"
  | _ => w.callNamed s "SUBSTRING" c

/-- A part of a text, whose length may be left out. -/
def substring (w : Writers) (s : Scope) (c : Call) : Draft :=
  match c.args with
  | [e, start] => w.substringOf s c e start none
  | [e, start, length] => w.substringOf s c e start (some length)
  | _ => .fail (.arity c)

/-- A text several times over. Oracle and Firebird fill a text up with itself, and SQLite replaces
the zeros of a blob. -/
def replicate (w : Writers) (s : Scope) (c : Call) : Draft :=
  match c.args with
  | [e, n] =>
    match s.family with
    | .sqlServer | .sybase => w.callNamed s "REPLICATE" c
    | .oracle | .firebird =>
      w.expr s (.callOf .padEnd [e, .arith .mul (.callOf .charLength [e]) n, e])
    | .sqlite => "REPLACE(HEX(ZEROBLOB(" ++ w.expr s n ++ ")), '00', " ++ w.expr s e ++ ")"
    | .derby => s.refuse "REPEAT"
    | _ => w.callNamed s "REPEAT" c
  | _ => .fail (.arity c)

/-- On SQLite, the filling that brings a text to a length, cut from the zeros of a blob. -/
def blobPadding (w : Writers) (s : Scope) (e n fill : Expr) : Draft :=
  "SUBSTR(REPLACE(HEX(ZEROBLOB(" ++ w.expr s n ++ ")), '00', " ++ w.expr s fill ++ "), 1, " ++
    w.expr s n ++ " - LENGTH(" ++ w.expr s e ++ "))"

/-- A text brought to a length by a filling. -/
def padWith (w : Writers) (s : Scope) (atStart : Bool) (e n fill : Expr) : Draft :=
  match s.family with
  | .sqlServer | .sybase =>
    if atStart then
      "RIGHT(REPLICATE(" ++ w.expr s fill ++ ", " ++ w.expr s n ++ ") + " ++ w.expr s e ++ ", " ++
        w.expr s n ++ ")"
    else
      "LEFT(" ++ w.expr s e ++ " + REPLICATE(" ++ w.expr s fill ++ ", " ++ w.expr s n ++ "), " ++
        w.expr s n ++ ")"
  | .sqlite =>
    if atStart then w.blobPadding s e n fill ++ " || " ++ w.expr s e
    else w.expr s e ++ " || " ++ w.blobPadding s e n fill
  | .derby => s.refuse "LPAD and RPAD"
  | _ =>
    (if atStart then "LPAD" else "RPAD") ++ "(" ++ w.expr s e ++ ", " ++ w.expr s n ++ ", " ++
      w.expr s fill ++ ")"

/-- A text brought to a length, with blanks unless another filling is given. -/
def pad (w : Writers) (s : Scope) (c : Call) : Draft :=
  let atStart := c.func = .padStart
  match c.args with
  | [e, n] => w.padWith s atStart e n (.literal (.string " "))
  | [e, n, fill] => w.padWith s atStart e n fill
  | _ => .fail (.arity c)

/-- The first or the last characters of a text. -/
def sidePart (w : Writers) (s : Scope) (c : Call) : Draft :=
  let first := c.func = .left
  match c.args with
  | [e, n] =>
    match s.family with
    | .oracle | .sqlite =>
      if first then "SUBSTR(" ++ w.expr s e ++ ", 1, " ++ w.expr s n ++ ")"
      else "SUBSTR(" ++ w.expr s e ++ ", -(" ++ w.expr s n ++ "))"
    | .derby =>
      if first then "SUBSTR(" ++ w.expr s e ++ ", 1, " ++ w.expr s n ++ ")"
      else
        "SUBSTR(" ++ w.expr s e ++ ", LENGTH(" ++ w.expr s e ++ ") - " ++ w.expr s n ++ " + 1)"
    | _ => w.callNamed s (if first then "LEFT" else "RIGHT") c
  | _ => .fail (.arity c)

/-- The position of a text in another. -/
def position (w : Writers) (s : Scope) (c : Call) : Draft :=
  match c.args with
  | [part, e] =>
    match s.family with
    | .oracle | .sqlite => "INSTR(" ++ w.expr s e ++ ", " ++ w.expr s part ++ ")"
    | .sqlServer | .sybase => "CHARINDEX(" ++ w.expr s part ++ ", " ++ w.expr s e ++ ")"
    | .derby | .db2 => "LOCATE(" ++ w.expr s part ++ ", " ++ w.expr s e ++ ")"
    | _ => "POSITION(" ++ w.expr s part ++ " IN " ++ w.expr s e ++ ")"
  | _ => .fail (.arity c)

/-- One value for what is not NULL, and another for NULL. -/
def nvl2 (w : Writers) (s : Scope) (c : Call) : Draft :=
  if s.has Feature.nvl2 then
    w.callNamed s "NVL2" c
  else
    match c.args with
    | [e, present, absent] => w.expr s (.caseWhen [(.isNull e true, present)] (some absent))
    | _ => .fail (.arity c)

/-- A call whose filter the engine can write. -/
def callPlain (w : Writers) (s : Scope) (c : Call) : Draft :=
  let byName := w.callNamed s c.func.upperName c
  match c.func with
  | .ceil => if s.family.isSqlServerLike then w.callNamed s "CEILING" c else byName
  | .ln => if s.family.isSqlServerLike then w.callNamed s "LOG" c else byName
  | .log => w.log s c
  | .power =>
    if s.has Feature.withoutPower then w.callExpanded s c.expandPower else byName
  | .sinh | .cosh | .tanh =>
    if s.has Feature.hyperbolic then byName else w.callExpanded s c.expandHyperbolic
  | .coth => w.callExpanded s c.expandHyperbolic
  | .least | .greatest => w.leastGreatest s c
  | .trim => w.trim s c
  | .charLength => w.callNamed s s.family.lengthFunction c
  | .concat => w.concat s c
  | .substring => w.substring s c
  | .replicate => w.replicate s c
  | .padStart | .padEnd => w.pad s c
  | .left | .right => w.sidePart s c
  | .position => w.position s c
  | .nvl => w.callNamed s s.family.nvlFunction c
  | .nvl2 => w.nvl2 s c
  | .currentDate =>
    if s.family.isSqlServerLike then "CAST(CURRENT_TIMESTAMP AS DATE)" else c.func.upperName
  | .currentTimestamp => c.func.upperName
  | .random => s.family.random
  | .custom name => Draft.column s name ++ w.arguments s c
  | _ => byName

/-- The call of a function, by means of writers for its parts. -/
def draftCall (w : Writers) (s : Scope) (c : Call) : Draft :=
  if s.has Feature.aggregateFilter then
    w.callPlain s c
  else
    match c.expandFilter with
    | some expanded => w.call s expanded
    | none => w.callPlain s c

end Writers

end Polysql

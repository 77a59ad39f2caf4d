import Polysql.Draft.Call
import Polysql.Proofs.Formatter.Part
/-!
Calls of functions on a formatter. No call changes the place of its arguments.
-/

namespace Polysql

namespace Formatters

section

variable (m : Formatters)

/-- The arguments of a call, with what an aggregate says about its rows. -/
def arguments (c : Call) : Formatting Unit :=
  "(" ++ Formatting.onlyIf c.distinct "DISTINCT " ++ m.exprs c.args ++ ")" ++
    Formatting.ofOption (fun filter => " FILTER (WHERE " ++ m.condition filter ++ ")") c.filter?

/-- A call by a name. -/
def callNamed (name : String) (c : Call) : Formatting Unit :=
  name ++ m.arguments c

/-- A call that is spelled out. -/
def callExpanded (expanded? : Option Expr) : Formatting Unit :=
  match expanded? with
  | some e => m.expr e
  | none => .fail (.invalidStatement "wrong number of function arguments")

/-- A logarithm. -/
def log (c : Call) : Formatting Unit := .asking fun s =>
  match c.args with
  | [base, x] =>
    if s.has Feature.logWithBase then m.callNamed "LOG" c
    else if s.family = .sqlServer then "LOG(" ++ m.expr x ++ ", " ++ m.expr base ++ ")"
    else m.callExpanded c.expandLog
  | _ => .fail (.arity c)

/-- The least or the greatest of the arguments. -/
def leastGreatest (c : Call) : Formatting Unit := .asking fun s =>
  let least := c.func = .least
  match c.args with
  | [] => .fail (.arity c)
  | [e] => m.expr e
  | _ =>
    if s.has Feature.leastGreatest then m.callNamed c.func.upperName c
    else match s.family with
      | .sqlite => m.callNamed (if least then "MIN" else "MAX") c
      | .firebird => m.callNamed (if least then "MINVALUE" else "MAXVALUE") c
      | _ => m.callExpanded c.expandLeastGreatest

/-- The trimming of both sides of a text. -/
def trim (c : Call) : Formatting Unit := .asking fun s =>
  if s.has Feature.withoutTrim then
    match c.args with
    | [e] => "LTRIM(RTRIM(" ++ m.expr e ++ "))"
    | _ => .fail (.arity c)
  else
    m.callNamed c.func.upperName c

/-- Texts one after the other. -/
def concat (c : Call) : Formatting Unit := .asking fun s =>
  match c.args with
  | [e] => m.expr e
  | args =>
    match s.family with
    | .mySql | .mariaDb | .sqlServer => m.callNamed "CONCAT" c
    | .sybase => "(" ++ Formatting.separated " + " (args.map m.expr) ++ ")"
    | _ => "(" ++ Formatting.separated " || " (args.map m.expr) ++ ")"

/-- A part of a text. -/
def substringOf (c : Call) (e start : Expr) (length? : Option Expr) :
    Formatting Unit := .asking fun s =>
  match s.family with
  | .oracle | .sqlite | .db2 | .derby => m.callNamed "SUBSTR" c
  | .sqlServer | .sybase =>
    let length := match length? with
      | some n => m.expr n
      | none => "LEN(" ++ m.expr e ++ ")"
    "SUBSTRING(" ++ m.expr e ++ ", " ++ m.expr start ++ ", " ++ length ++ ")"
  | .postgres | .yugabyteDb | .redshift | .firebird =>
    "SUBSTRING(" ++ m.expr e ++ " FROM " ++ m.expr start ++
      Formatting.ofOption (fun n => " FOR " ++ m.expr n) length? ++ ")"
  | _ => m.callNamed "SUBSTRING" c

/-- A part of a text, whose length may be left out. -/
def substring (c : Call) : Formatting Unit :=
  match c.args with
  | [e, start] => m.substringOf c e start none
  | [e, start, length] => m.substringOf c e start (some length)
  | _ => .fail (.arity c)

/-- A text several times over. Oracle and Firebird fill a text up with itself, and SQLite replaces
the zeros of a blob. -/
def replicate (c : Call) : Formatting Unit := .asking fun s =>
  match c.args with
  | [e, n] =>
    match s.family with
    | .sqlServer | .sybase => m.callNamed "REPLICATE" c
    | .oracle | .firebird =>
      m.expr (.callOf .padEnd [e, .arith .mul (.callOf .charLength [e]) n, e])
    | .sqlite => "REPLACE(HEX(ZEROBLOB(" ++ m.expr n ++ ")), '00', " ++ m.expr e ++ ")"
    | .derby => .refuse "REPEAT"
    | _ => m.callNamed "REPEAT" c
  | _ => .fail (.arity c)

/-- On SQLite, the filling that brings a text to a length, cut from the zeros of a blob. -/
def blobPadding (e n fill : Expr) : Formatting Unit :=
  "SUBSTR(REPLACE(HEX(ZEROBLOB(" ++ m.expr n ++ ")), '00', " ++ m.expr fill ++ "), 1, " ++
    m.expr n ++ " - LENGTH(" ++ m.expr e ++ "))"

/-- A text brought to a length by a filling. -/
def padWith (atStart : Bool) (e n fill : Expr) : Formatting Unit := .asking fun s =>
  match s.family with
  | .sqlServer | .sybase =>
    if atStart then
      "RIGHT(REPLICATE(" ++ m.expr fill ++ ", " ++ m.expr n ++ ") + " ++ m.expr e ++ ", " ++
        m.expr n ++ ")"
    else
      "LEFT(" ++ m.expr e ++ " + REPLICATE(" ++ m.expr fill ++ ", " ++ m.expr n ++ "), " ++
        m.expr n ++ ")"
  | .sqlite =>
    if atStart then m.blobPadding e n fill ++ " || " ++ m.expr e
    else m.expr e ++ " || " ++ m.blobPadding e n fill
  | .derby => .refuse "LPAD and RPAD"
  | _ =>
    (if atStart then "LPAD" else "RPAD") ++ "(" ++ m.expr e ++ ", " ++ m.expr n ++ ", " ++
      m.expr fill ++ ")"

/-- A text brought to a length, with blanks unless another filling is given. -/
def pad (c : Call) : Formatting Unit :=
  let atStart := c.func = .padStart
  match c.args with
  | [e, n] => m.padWith atStart e n (.literal (.string " "))
  | [e, n, fill] => m.padWith atStart e n fill
  | _ => .fail (.arity c)

/-- The first or the last characters of a text. -/
def sidePart (c : Call) : Formatting Unit := .asking fun s =>
  let first := c.func = .left
  match c.args with
  | [e, n] =>
    match s.family with
    | .oracle | .sqlite =>
      if first then "SUBSTR(" ++ m.expr e ++ ", 1, " ++ m.expr n ++ ")"
      else "SUBSTR(" ++ m.expr e ++ ", -(" ++ m.expr n ++ "))"
    | .derby =>
      if first then "SUBSTR(" ++ m.expr e ++ ", 1, " ++ m.expr n ++ ")"
      else
        "SUBSTR(" ++ m.expr e ++ ", LENGTH(" ++ m.expr e ++ ") - " ++ m.expr n ++ " + 1)"
    | _ => m.callNamed (if first then "LEFT" else "RIGHT") c
  | _ => .fail (.arity c)

/-- The position of a text in another. -/
def position (c : Call) : Formatting Unit := .asking fun s =>
  match c.args with
  | [part, e] =>
    match s.family with
    | .oracle | .sqlite => "INSTR(" ++ m.expr e ++ ", " ++ m.expr part ++ ")"
    | .sqlServer | .sybase => "CHARINDEX(" ++ m.expr part ++ ", " ++ m.expr e ++ ")"
    | .derby | .db2 => "LOCATE(" ++ m.expr part ++ ", " ++ m.expr e ++ ")"
    | _ => "POSITION(" ++ m.expr part ++ " IN " ++ m.expr e ++ ")"
  | _ => .fail (.arity c)

/-- One value for what is not NULL, and another for NULL. -/
def nvl2 (c : Call) : Formatting Unit := .asking fun s =>
  if s.has Feature.nvl2 then
    m.callNamed "NVL2" c
  else
    match c.args with
    | [e, present, absent] => m.expr (.caseWhen [(.isNull e true, present)] (some absent))
    | _ => .fail (.arity c)

/-- A call whose filter the engine can write. -/
def callPlain (c : Call) : Formatting Unit := .asking fun s =>
  let byName := m.callNamed c.func.upperName c
  match c.func with
  | .ceil => if s.family.isSqlServerLike then m.callNamed "CEILING" c else byName
  | .ln => if s.family.isSqlServerLike then m.callNamed "LOG" c else byName
  | .log => m.log c
  | .power =>
    if s.has Feature.withoutPower then m.callExpanded c.expandPower else byName
  | .sinh | .cosh | .tanh =>
    if s.has Feature.hyperbolic then byName else m.callExpanded c.expandHyperbolic
  | .coth => m.callExpanded c.expandHyperbolic
  | .least | .greatest => m.leastGreatest c
  | .trim => m.trim c
  | .charLength => m.callNamed s.family.lengthFunction c
  | .concat => m.concat c
  | .substring => m.substring c
  | .replicate => m.replicate c
  | .padStart | .padEnd => m.pad c
  | .left | .right => m.sidePart c
  | .position => m.position c
  | .nvl => m.callNamed s.family.nvlFunction c
  | .nvl2 => m.nvl2 c
  | .currentDate =>
    if s.family.isSqlServerLike then "CAST(CURRENT_TIMESTAMP AS DATE)" else c.func.upperName
  | .currentTimestamp => c.func.upperName
  | .random => s.family.random
  | .custom name => Formatting.column name ++ m.arguments c
  | _ => byName

/-- The call of a function, by means of formatters for its parts. -/
def formatCall (c : Call) : Formatting Unit := .asking fun s =>
  if s.has Feature.aggregateFilter then
    m.callPlain c
  else
    match c.expandFilter with
    | some expanded => m.call expanded
    | none => m.callPlain c

end

namespace Follows

variable {m : Formatters} {w : Writers} (h : m.Follows w) (s : Scope)
include h

@[grind ←]
lemma arguments (c : Call) : (m.arguments c).Renders s (w.arguments s c) := by
  rw [Formatters.arguments, Writers.arguments]
  grind

@[grind ←]
lemma callNamed (name : String) (c : Call) :
    (m.callNamed name c).Renders s (w.callNamed s name c) := by
  rw [Formatters.callNamed, Writers.callNamed]
  grind

@[grind ←]
lemma callExpanded (expanded? : Option Expr) :
    (m.callExpanded expanded?).Renders s (w.callExpanded s expanded?) := by
  rw [Formatters.callExpanded.eq_def, Writers.callExpanded.eq_def]
  split <;> grind

@[grind ←]
lemma log (c : Call) : (m.log c).Renders s (w.log s c) := by
  rw [Formatters.log, Writers.log]
  refine .asking ?_
  split <;> grind

@[grind ←]
lemma leastGreatest (c : Call) : (m.leastGreatest c).Renders s (w.leastGreatest s c) := by
  rw [Formatters.leastGreatest, Writers.leastGreatest]
  refine .asking ?_
  split <;> grind

@[grind ←]
lemma trim (c : Call) : (m.trim c).Renders s (w.trim s c) := by
  rw [Formatters.trim, Writers.trim]
  refine .asking ?_
  split <;> grind

@[grind ←]
lemma concat (c : Call) : (m.concat c).Renders s (w.concat s c) := by
  rw [Formatters.concat, Writers.concat]
  refine .asking ?_
  split <;> grind

@[grind ←]
lemma substringOf (c : Call) (e start : Expr) (length? : Option Expr) :
    (m.substringOf c e start length?).Renders s (w.substringOf s c e start length?) := by
  rw [Formatters.substringOf.eq_def, Writers.substringOf.eq_def]
  refine .asking ?_
  split <;> grind

@[grind ←]
lemma substring (c : Call) : (m.substring c).Renders s (w.substring s c) := by
  rw [Formatters.substring, Writers.substring]
  split <;> grind

@[grind ←]
lemma replicate (c : Call) : (m.replicate c).Renders s (w.replicate s c) := by
  rw [Formatters.replicate, Writers.replicate]
  refine .asking ?_
  split <;> grind

@[grind ←]
lemma blobPadding (e n fill : Expr) :
    (m.blobPadding e n fill).Renders s (w.blobPadding s e n fill) := by
  rw [Formatters.blobPadding, Writers.blobPadding]
  grind

@[grind ←]
lemma padWith (atStart : Bool) (e n fill : Expr) :
    (m.padWith atStart e n fill).Renders s (w.padWith s atStart e n fill) := by
  rw [Formatters.padWith, Writers.padWith]
  refine .asking ?_
  split <;> grind

@[grind ←]
lemma pad (c : Call) : (m.pad c).Renders s (w.pad s c) := by
  rw [Formatters.pad, Writers.pad]
  split <;> grind

@[grind ←]
lemma sidePart (c : Call) : (m.sidePart c).Renders s (w.sidePart s c) := by
  rw [Formatters.sidePart, Writers.sidePart]
  refine .asking ?_
  split <;> grind

@[grind ←]
lemma position (c : Call) : (m.position c).Renders s (w.position s c) := by
  rw [Formatters.position, Writers.position]
  refine .asking ?_
  split <;> grind

@[grind ←]
lemma nvl2 (c : Call) : (m.nvl2 c).Renders s (w.nvl2 s c) := by
  rw [Formatters.nvl2, Writers.nvl2]
  refine .asking ?_
  split <;> grind

@[grind ←]
lemma callPlain (c : Call) : (m.callPlain c).Renders s (w.callPlain s c) := by
  rw [Formatters.callPlain, Writers.callPlain]
  refine .asking ?_
  split <;> grind

/-- A call is rendered as it is drafted. -/
lemma formatCall (c : Call) : (m.formatCall c).Renders s (w.draftCall s c) := by
  rw [Formatters.formatCall, Writers.draftCall]
  refine .asking ?_
  split <;> grind

end Follows

end Formatters

end Polysql

import Polysql.Proofs.Formatter.Part
/-!
Expressions on a formatter. Only a query in an expression changes the place; a sequence is named in
a text of its own.
-/

namespace Polysql

namespace Formatters

section

variable (m : Formatters)

/-- An operand of an operator. -/
def operand (e : Expr) : Formatting Unit :=
  if e.isBinary then "(" ++ m.expr e ++ ")" else m.expr e

/-- Arithmetic. -/
def arith (op : ArithOp) (a b : Expr) : Formatting Unit :=
  .asking fun s =>
    if op = .mod ∧ s.family.hasModFunction then
      "MOD(" ++ m.operand a ++ ", " ++ m.operand b ++ ")"
    else
      m.operand a ++ " " ++ op.sign ++ " " ++ m.operand b

/-- The negative of an expression. -/
def neg (e : Expr) : Formatting Unit :=
  match e with
  | .field _ _ => "-" ++ m.expr e
  | _ => "-(" ++ m.expr e ++ ")"

/-- A bitwise operation in terms of simpler ones. -/
def bitExpanded (op : BitOp) (a : Expr) (b? : Option Expr) : Formatting Unit :=
  match Expr.expandBit op a b? with
  | some e => m.expr e
  | none => .refuse "bitwise operators"

/-- A bitwise operation on Oracle. -/
def bitOracle (op : BitOp) (a : Expr) (b? : Option Expr) : Formatting Unit :=
  match op, b? with
  | .and, some b => "BITAND(" ++ m.operand a ++ ", " ++ m.operand b ++ ")"
  | .or, some b =>
    "(" ++ m.operand a ++ " + " ++ m.operand b ++ " - BITAND(" ++ m.operand a ++ ", " ++
      m.operand b ++ "))"
  | _, _ => m.bitExpanded op a b?

/-- A bitwise operation by a sign. -/
def bitSigned (op : BitOp) (a : Expr) (b? : Option Expr) : Formatting Unit :=
  .asking fun s =>
    match s.family.bitSign? op, b? with
    | none, _ => m.bitExpanded op a b?
    | some sign, some b => m.operand a ++ " " ++ sign ++ " " ++ m.operand b
    | some sign, none => sign ++ m.operand a

/-- A bitwise operation. -/
def bit (op : BitOp) (a : Expr) (b? : Option Expr) : Formatting Unit :=
  .asking fun s =>
    if op = .nand ∨ op = .nor ∨ op = .xnor then
      m.bitExpanded op a b?
    else
      match s.family with
      | .derby => .refuse "bitwise operators"
      | .oracle => m.bitOracle op a b?
      | family =>
        match family.bitFunction? with
        | none => m.bitSigned op a b?
        | some name? =>
          match name? op with
          | some name => name ++ "(" ++ m.exprs (a :: b?.toList) ++ ")"
          | none => m.bitExpanded op a b?

/-- The end of a `CASE`. -/
def caseEnd (otherwise? : Option Expr) : Formatting Unit :=
  Formatting.ofOption (fun e => " ELSE " ++ m.expr e) otherwise? ++ " END"

/-- A `CASE` on conditions. -/
def caseWhen (branches : List (Condition × Expr)) (otherwise? : Option Expr) : Formatting Unit :=
  "CASE" ++
    Formatting.concat (branches.map fun (c, e) =>
      " WHEN " ++ m.condition c ++ " THEN " ++ m.expr e) ++
    m.caseEnd otherwise?

/-- A `CASE` on values. -/
def caseOf (operand : Expr) (branches : List (Expr × Expr)) (otherwise? : Option Expr) :
    Formatting Unit :=
  "CASE " ++ m.expr operand ++
    Formatting.concat (branches.map fun (v, e) =>
      " WHEN " ++ m.expr v ++ " THEN " ++ m.expr e) ++
    m.caseEnd otherwise?

/-- The type that a cast aims at. -/
def castType (type : DataType) : Formatting Unit :=
  .emit fun s => .castType s type

/-- A cast as the engine has it. -/
def castDirect (e : Expr) (type : DataType) : Formatting Unit :=
  .asking fun s =>
    if s.family = .derby ∧ e.type.isNumeric ∧ type.isString then
      "TRIM(CAST(CAST(" ++ m.expr e ++ " AS CHAR(38)) AS " ++ castType type ++ "))"
    else if s.family = .derby ∧ e.type.isString ∧ type.isFloat then
      "CAST(CAST(" ++ m.expr e ++ " AS DECIMAL) AS " ++ castType type ++ ")"
    else
      "CAST(" ++ m.expr e ++ " AS " ++ castType type ++ ")"

/-- A cast. Where there is none to truth values, numbers and texts are compared instead. -/
def cast (e : Expr) (type : DataType) : Formatting Unit :=
  .asking fun s =>
    if type.isBoolean && !s.has Feature.booleanCasts && e.type.isNumeric then
      m.expr e.numberAsTruth
    else if type.isBoolean && !s.has Feature.booleanCasts && e.type.isString then
      m.expr e.textAsTruth
    else
      m.castDirect e type

/-- A condition as a value. -/
def conditionValue (c : Condition) : Formatting Unit :=
  .asking fun s =>
    if s.has Feature.booleanValues then
      "(" ++ m.condition c ++ ")"
    else
      m.expr (c.toCase (.truth true) (.truth false))

/-- Access to a sequence where it is a function: the name of the sequence is written apart. -/
def sequenceCall (op : SequenceOp) (name : Name) : Formatting Unit :=
  let function := match op with
    | .next => "nextval('"
    | .current => "currval('"
  .apart (.qualified name) fun quoted => function ++ Text.doubled '\'' quoted ++ "')"

/-- Access to a sequence. -/
def sequence (op : SequenceOp) (name : Name) : Formatting Unit :=
  .asking fun s =>
    if s.has Feature.sequences && s.has Feature.postgresLike then sequenceCall op name
    else .emit fun s => Writers.sequence s op name

/-- An expression, by means of formatters for its parts. -/
def formatExpr : Expr → Formatting Unit
  | .constant c => .emit fun s => .constant s c
  | .field name _ => .column name
  | .asterisk none => "*"
  | .asterisk (some table) => Formatting.column table ++ ".*"
  | .arith op a b => m.arith op a b
  | .neg e => m.neg e
  | .bit op a b? => m.bit op a b?
  | .call c => m.call c
  | .caseWhen branches otherwise? => m.caseWhen branches otherwise?
  | .caseOf operand branches otherwise? => m.caseOf operand branches otherwise?
  | .cast e type => m.cast e type
  | .condition c => m.conditionValue c
  | .subquery q => m.subquery q
  | .sequence op name => sequence op name
  | .columnDefault => "DEFAULT"

end

section

variable {s : Scope}

@[grind ←]
lemma renders_castType (type : DataType) : (castType type).Renders s (.castType s type) :=
  Formatting.renders_emit rfl

@[grind ←]
lemma renders_sequenceCall (op : SequenceOp) (name : Name) :
    (sequenceCall op name).Renders s (Writers.sequenceCall op name) := by
  have hname := (Formatting.renders_qualified (s := s.inText) name).writes
  have hembeds (before : String) :=
    ((Draft.embeds_quoted (.qualified name)).text_append before).append_text "')"
  cases op with
  | next => exact hname.apart (hembeds "nextval('")
  | current => exact hname.apart (hembeds "currval('")

@[grind ←]
lemma renders_sequence (op : SequenceOp) (name : Name) :
    (sequence op name).Renders s (Writers.sequence s op name) := by
  refine .asking ?_
  split
  · next hcall =>
    obtain ⟨hsequences, hpostgres⟩ := Bool.and_eq_true_iff.mp hcall
    rw [Writers.sequence.eq_def, hsequences, hpostgres]
    exact renders_sequenceCall op name
  · exact Formatting.renders_emit rfl

end

namespace Follows

variable {m : Formatters} {w : Writers} (h : m.Follows w) (s : Scope)
include h

@[grind ←]
lemma operand (e : Expr) : (m.operand e).Renders s (w.operand s e) := by
  rw [Formatters.operand, Writers.operand]
  split <;> grind

@[grind ←]
lemma arith (op : ArithOp) (a b : Expr) : (m.arith op a b).Renders s (w.arith s op a b) := by
  rw [Formatters.arith, Writers.arith]
  refine .asking ?_
  split <;> grind

@[grind ←]
lemma neg (e : Expr) : (m.neg e).Renders s (w.neg s e) := by
  rw [Formatters.neg.eq_def, Writers.neg.eq_def]
  split <;> grind

@[grind ←]
lemma bitExpanded (op : BitOp) (a : Expr) (b? : Option Expr) :
    (m.bitExpanded op a b?).Renders s (w.bitExpanded s op a b?) := by
  rw [Formatters.bitExpanded, Writers.bitExpanded]
  split <;> grind

@[grind ←]
lemma bitOracle (op : BitOp) (a : Expr) (b? : Option Expr) :
    (m.bitOracle op a b?).Renders s (w.bitOracle s op a b?) := by
  rw [Formatters.bitOracle.eq_def, Writers.bitOracle.eq_def]
  split <;> grind

@[grind ←]
lemma bitSigned (op : BitOp) (a : Expr) (b? : Option Expr) :
    (m.bitSigned op a b?).Renders s (w.bitSigned s op a b?) := by
  rw [Formatters.bitSigned, Writers.bitSigned.eq_def]
  refine .asking ?_
  split <;> grind

@[grind ←]
lemma bit (op : BitOp) (a : Expr) (b? : Option Expr) :
    (m.bit op a b?).Renders s (w.bit s op a b?) := by
  rw [Formatters.bit, Writers.bit]
  refine .asking ?_
  split
  · exact h.bitExpanded s op a b?
  · split
    · grind
    · grind
    · split
      · grind
      · split <;> grind

@[grind ←]
lemma caseEnd (otherwise? : Option Expr) :
    (m.caseEnd otherwise?).Renders s (w.caseEnd s otherwise?) := by
  rw [Formatters.caseEnd, Writers.caseEnd]
  grind

@[grind ←]
lemma caseWhen (branches : List (Condition × Expr)) (otherwise? : Option Expr) :
    (m.caseWhen branches otherwise?).Renders s (w.caseWhen s branches otherwise?) := by
  rw [Formatters.caseWhen, Writers.caseWhen]
  grind

@[grind ←]
lemma caseOf (operand : Expr) (branches : List (Expr × Expr)) (otherwise? : Option Expr) :
    (m.caseOf operand branches otherwise?).Renders s (w.caseOf s operand branches otherwise?) := by
  rw [Formatters.caseOf, Writers.caseOf]
  grind

@[grind ←]
lemma castDirect (e : Expr) (type : DataType) :
    (m.castDirect e type).Renders s (w.castDirect s e type) := by
  rw [Formatters.castDirect, Writers.castDirect]
  refine .asking ?_
  split <;> grind

@[grind ←]
lemma cast (e : Expr) (type : DataType) : (m.cast e type).Renders s (w.cast s e type) := by
  rw [Formatters.cast, Writers.cast]
  refine .asking ?_
  split <;> grind

@[grind ←]
lemma conditionValue (c : Condition) :
    (m.conditionValue c).Renders s (w.conditionValue s c) := by
  rw [Formatters.conditionValue, Writers.conditionValue]
  refine .asking ?_
  split <;> grind

/-- An expression is rendered as it is drafted. -/
lemma formatExpr (e : Expr) : (m.formatExpr e).Renders s (w.draftExpr s e) := by
  rw [Formatters.formatExpr.eq_def, Writers.draftExpr.eq_def]
  split <;> grind

end Follows

end Formatters

end Polysql

import Polysql.Proofs.Formatter.Part
/-!
Conditions on a formatter. The operands of a junction stand at a place of their own; a detour asks
for the junction that it stands in.
-/

namespace Polysql

namespace Formatters

section

variable (m : Formatters)

/-- A condition in parentheses. -/
def parenthesized (c : Condition) : Formatting Unit :=
  "(" ++ .within (.operandOf none) (m.condition c) ++ ")"

/-- An operand of a junction. -/
def junctionOperand (parent : Junction) (c : Condition) : Formatting Unit :=
  if c.needsParens parent then m.parenthesized c
  else .within (.operandOf (some parent)) (m.condition c)

/-- Conditions in a junction. One alone takes the place of the junction. -/
def junction (j : Junction) (ifEmpty : Condition) : List Condition → Formatting Unit
  | [] => m.condition ifEmpty
  | [c] => m.condition c
  | cs => Formatting.separated j.separator (cs.map (m.junctionOperand j))

/-- A detour in the place of a condition. -/
def detour (c : Condition) : Formatting Unit := .asking fun s =>
  match s.junction? with
  | some parent => if c.needsParens parent then m.parenthesized c else m.condition c
  | none => m.condition c

/-- A detour that the operands may not allow. -/
def detourOf (c : Except Error Condition) : Formatting Unit :=
  Formatting.ofResult c m.detour

/-- A condition that is always or never true. -/
def constantCondition (b : Bool) : Formatting Unit :=
  .emit fun s => Writers.constantCondition s b

/-- A match with a pattern. -/
def like (l : Like) : Formatting Unit := .asking fun s =>
  if l.ignoreCase && !s.has Feature.ilike then
    m.condition (.like l.expandIgnoreCase)
  else
    m.expr l.text ++ " " ++ notIf l.negate ++ (if l.ignoreCase then "ILIKE " else "LIKE ") ++
      m.expr l.pattern ++
      Formatting.ofOption
        (fun c => Formatting.text (" ESCAPE " ++ s.dialect.stringLiteral (String.singleton c)))
        l.escape?

/-- A value between two others. -/
def between (e low high : Expr) (negate symmetric : Bool) : Formatting Unit := .asking fun s =>
  let native :=
    m.expr e ++ Writers.betweenWords negate symmetric ++ m.expr low ++ " AND " ++ m.expr high
  if s.has Feature.betweenSymmetric then native
  else match Condition.expandBetween e low high negate symmetric with
    | some c => m.detour c
    | none => native

/-- A value in a list of elements. -/
def inChunk (e : Expr) (negate : Bool) (list : List Expr) : Formatting Unit :=
  m.expr e ++ " " ++ notIf negate ++ "IN (" ++ m.exprs list ++ ")"

/-- A value in a list. Oracle takes lists of limited length only. -/
def inList (e : Expr) (list : List Expr) (negate : Bool) : Formatting Unit := .asking fun s =>
  if list.isEmpty then
    if negate then "1 = 1" else "1 = 0"
  else if s.family = .oracle ∧ Feature.inListLimit < list.length then
    let parts := (Writers.chunks Feature.inListLimit list).map (m.inChunk e negate)
    "(" ++ Formatting.separated (if negate then " AND " else " OR ") parts ++ ")"
  else
    m.inChunk e negate list

/-- A value in a query. -/
def inSelect (e : Expr) (q : Select) (negate : Bool) : Formatting Unit :=
  m.expr e ++ " " ++ notIf negate ++ "IN " ++ m.subquery q

/-- Two values that differ, NULL being like NULL. -/
def isDistinct (a b : Expr) (negate : Bool) : Formatting Unit := .asking fun s =>
  let around (words : String) := m.expr a ++ words ++ m.expr b
  if s.has Feature.isDistinctFrom then
    around (" IS " ++ notIf negate ++ "DISTINCT FROM ")
  else match s.family with
    | .sqlite => around (if negate then " IS " else " IS NOT ")
    | .mySql | .mariaDb => if negate then around " <=> " else "NOT (" ++ around " <=> " ++ ")"
    | _ => m.detour (Condition.expandDistinct a b negate)

/-- Two rows compared. -/
def rowCompare (left : Row) (op : CompareOp) (right : Row) : Formatting Unit := .asking fun s =>
  if s.has Feature.rowComparison && left.length == right.length then
    m.row left ++ " " ++ op.sign ++ " " ++ m.row right
  else
    m.detourOf (Condition.expandRowCompare left op right)

/-- A row in a list of rows. -/
def rowInList (row : Row) (list : List Row) (negate : Bool) : Formatting Unit := .asking fun s =>
  if list.isEmpty then
    m.condition (.ofBool negate)
  else if s.has Feature.rowIn && list.all (fun r => r.length == row.length) then
    m.row row ++ " " ++ notIf negate ++ "IN (" ++ Formatting.commas (list.map m.row) ++ ")"
  else
    m.detourOf (Condition.expandRowIn row list negate)

/-- A row in a query. -/
def rowInSelect (row : Row) (q : Select) (negate : Bool) : Formatting Unit := .asking fun s =>
  if s.has Feature.rowIn then
    m.row row ++ " " ++ notIf negate ++ "IN " ++ m.subquery q
  else
    m.detourOf (Condition.expandRowInSelect row q negate)

/-- A row that is NULL. -/
def rowIsNull (row : Row) (negate : Bool) : Formatting Unit := .asking fun s =>
  if s.has Feature.rowIsNull then
    m.row row ++ " IS " ++ notIf negate ++ "NULL"
  else
    m.detour (Condition.expandRowIsNull row negate)

/-- A row between two others. -/
def rowBetween (row low high : Row) (negate symmetric : Bool) : Formatting Unit := .asking fun s =>
  let native := s.has Feature.rowBetween &&
    (!symmetric || s.has Feature.betweenSymmetric) &&
    low.length == row.length && high.length == row.length
  if native then
    m.row row ++ Writers.betweenWords negate symmetric ++ m.row low ++ " AND " ++ m.row high
  else
    m.detourOf (Condition.expandRowBetween row low high negate symmetric)

/-- One of two conditions, but not both. -/
def xor (c d : Condition) : Formatting Unit := .asking fun s =>
  if s.has Feature.xor then
    m.junctionOperand .xor c ++ " XOR " ++ m.junctionOperand .xor d
  else
    m.detour (Condition.expandXor c d)

/-- A truth value as a condition. -/
def holds (e : Expr) : Formatting Unit := .asking fun s =>
  if s.has Feature.booleanValues then m.expr e else m.expr e ++ " = 1"

/-- A condition, by means of formatters for its parts. -/
def formatCondition : Condition → Formatting Unit
  | .always => constantCondition true
  | .never => constantCondition false
  | .compare a op b => m.expr a ++ " " ++ op.sign ++ " " ++ m.expr b
  | .like l => m.like l
  | .between e low high negate symmetric => m.between e low high negate symmetric
  | .inList e list negate => m.inList e list negate
  | .inSelect e q negate => m.inSelect e q negate
  | .isNull e negate => m.expr e ++ " IS " ++ notIf negate ++ "NULL"
  | .isDistinct a b negate => m.isDistinct a b negate
  | .rowCompare left op right => m.rowCompare left op right
  | .rowInList row list negate => m.rowInList row list negate
  | .rowInSelect row q negate => m.rowInSelect row q negate
  | .rowIsNull row negate => m.rowIsNull row negate
  | .rowBetween row low high negate symmetric => m.rowBetween row low high negate symmetric
  | .hasRows q negate => notIf negate ++ "EXISTS " ++ m.subquery q
  | .not c => "NOT " ++ m.parenthesized c
  | .and cs => m.junction .and .always cs
  | .or cs => m.junction .or .never cs
  | .xor c d => m.xor c d
  | .holds e => m.holds e

end

@[grind ←]
lemma renders_constantCondition (s : Scope) (b : Bool) :
    (constantCondition b).Renders s (Writers.constantCondition s b) :=
  Formatting.renders_emit rfl

namespace Follows

variable {m : Formatters} {w : Writers} (h : m.Follows w) (s : Scope)
include h

@[grind ←]
lemma parenthesized (c : Condition) : (m.parenthesized c).Renders s (w.parenthesized s c) := by
  rw [Formatters.parenthesized, Writers.parenthesized]
  grind

@[grind ←]
lemma junctionOperand (parent : Junction) (c : Condition) :
    (m.junctionOperand parent c).Renders s (w.junctionOperand s parent c) := by
  rw [Formatters.junctionOperand, Writers.junctionOperand]
  split <;> grind

@[grind ←]
lemma junction (j : Junction) (ifEmpty : Condition) (cs : List Condition) :
    (m.junction j ifEmpty cs).Renders s (w.junction s j ifEmpty cs) := by
  rw [Formatters.junction.eq_def, Writers.junction.eq_def]
  split <;> grind

@[grind ←]
lemma detour (c : Condition) : (m.detour c).Renders s (w.detour s c) := by
  rw [Formatters.detour, Writers.detour]
  refine .asking ?_
  split <;> grind

@[grind ←]
lemma detourOf (c : Except Error Condition) : (m.detourOf c).Renders s (w.detourOf s c) := by
  rw [Formatters.detourOf, Writers.detourOf]
  grind

@[grind ←]
lemma like (l : Like) : (m.like l).Renders s (w.like s l) := by
  rw [Formatters.like, Writers.like]
  refine .asking ?_
  split <;> grind

@[grind ←]
lemma between (e low high : Expr) (negate symmetric : Bool) :
    (m.between e low high negate symmetric).Renders s
      (w.between s e low high negate symmetric) := by
  rw [Formatters.between, Writers.between]
  refine .asking ?_
  split <;> grind

@[grind ←]
lemma inChunk (e : Expr) (negate : Bool) (list : List Expr) :
    (m.inChunk e negate list).Renders s (w.inChunk s e negate list) := by
  rw [Formatters.inChunk, Writers.inChunk]
  grind

@[grind ←]
lemma inList (e : Expr) (list : List Expr) (negate : Bool) :
    (m.inList e list negate).Renders s (w.inList s e list negate) := by
  rw [Formatters.inList, Writers.inList]
  refine .asking ?_
  split <;> grind

@[grind ←]
lemma inSelect (e : Expr) (q : Select) (negate : Bool) :
    (m.inSelect e q negate).Renders s (w.inSelect s e q negate) := by
  rw [Formatters.inSelect, Writers.inSelect]
  grind

@[grind ←]
lemma isDistinct (a b : Expr) (negate : Bool) :
    (m.isDistinct a b negate).Renders s (w.isDistinct s a b negate) := by
  rw [Formatters.isDistinct, Writers.isDistinct]
  refine .asking ?_
  split <;> grind

@[grind ←]
lemma rowCompare (left : Row) (op : CompareOp) (right : Row) :
    (m.rowCompare left op right).Renders s (w.rowCompare s left op right) := by
  rw [Formatters.rowCompare, Writers.rowCompare]
  refine .asking ?_
  split <;> grind

@[grind ←]
lemma rowInList (row : Row) (list : List Row) (negate : Bool) :
    (m.rowInList row list negate).Renders s (w.rowInList s row list negate) := by
  rw [Formatters.rowInList, Writers.rowInList]
  refine .asking ?_
  split <;> grind

@[grind ←]
lemma rowInSelect (row : Row) (q : Select) (negate : Bool) :
    (m.rowInSelect row q negate).Renders s (w.rowInSelect s row q negate) := by
  rw [Formatters.rowInSelect, Writers.rowInSelect]
  refine .asking ?_
  split <;> grind

@[grind ←]
lemma rowIsNull (row : Row) (negate : Bool) :
    (m.rowIsNull row negate).Renders s (w.rowIsNull s row negate) := by
  rw [Formatters.rowIsNull, Writers.rowIsNull]
  refine .asking ?_
  split <;> grind

@[grind ←]
lemma rowBetween (row low high : Row) (negate symmetric : Bool) :
    (m.rowBetween row low high negate symmetric).Renders s
      (w.rowBetween s row low high negate symmetric) := by
  rw [Formatters.rowBetween, Writers.rowBetween]
  refine .asking ?_
  split <;> grind

@[grind ←]
lemma xor (c d : Condition) : (m.xor c d).Renders s (w.xor s c d) := by
  rw [Formatters.xor, Writers.xor]
  refine .asking ?_
  split <;> grind

@[grind ←]
lemma holds (e : Expr) : (m.holds e).Renders s (w.holds s e) := by
  rw [Formatters.holds, Writers.holds]
  refine .asking ?_
  split <;> grind

/-- A condition is rendered as it is drafted. -/
lemma formatCondition (c : Condition) :
    (m.formatCondition c).Renders s (w.draftCondition s c) := by
  rw [Formatters.formatCondition.eq_def, Writers.draftCondition.eq_def]
  split <;> grind

end Follows

end Formatters

end Polysql

import Polysql.Draft.Expr
/-!
Drafts of conditions. `AND` binds tighter than `XOR`, and `XOR` tighter than `OR`; a junction stands
in parentheses inside a junction of another kind. A condition that the engine lacks is replaced by
a detour, which takes the place of a single condition and gets parentheses accordingly.
-/

namespace Polysql

/-- A condition has to stand in parentheses as an operand of a junction. -/
def Condition.needsParens (c : Condition) (parent : Junction) : Bool :=
  match c with
  | .and cs => 2 ≤ cs.length && parent != .and
  | .or cs => 2 ≤ cs.length && parent != .or
  | .xor _ _ => true
  | _ => false

namespace Scope

/-- The place of an operand of a junction, or of a condition in parentheses. -/
def operandOf (s : Scope) (junction? : Option Junction) : Scope :=
  { s with junction? }

end Scope

/-- The word that negates what follows. -/
def notIf (negate : Bool) : String :=
  if negate then "NOT " else ""

namespace Writers

/-- A condition in parentheses. -/
def parenthesized (w : Writers) (s : Scope) (c : Condition) : Draft :=
  "(" ++ w.condition (s.operandOf none) c ++ ")"

/-- An operand of a junction. -/
def junctionOperand (w : Writers) (s : Scope) (parent : Junction) (c : Condition) : Draft :=
  if c.needsParens parent then w.parenthesized s c
  else w.condition (s.operandOf (some parent)) c

/-- Conditions in a junction. One alone takes the place of the junction. -/
def junction (w : Writers) (s : Scope) (j : Junction) (ifEmpty : Condition) :
    List Condition → Draft
  | [] => w.condition s ifEmpty
  | [c] => w.condition s c
  | cs => Draft.separated j.separator (cs.map (w.junctionOperand s j))

/-- A detour in the place of a condition. -/
def detour (w : Writers) (s : Scope) (c : Condition) : Draft :=
  match s.junction? with
  | some parent => if c.needsParens parent then w.parenthesized s c else w.condition s c
  | none => w.condition s c

/-- A detour that the operands may not allow. -/
def detourOf (w : Writers) (s : Scope) (c : Except Error Condition) : Draft :=
  Draft.bind c (w.detour s)

/-- A condition that is always or never true. -/
def constantCondition (s : Scope) (b : Bool) : Draft :=
  if s.has Feature.booleanValues then
    if b then "TRUE" else "FALSE"
  else
    if b then "1 = 1" else "1 = 0"

/-- A match with a pattern. -/
def like (w : Writers) (s : Scope) (l : Like) : Draft :=
  if l.ignoreCase && !s.has Feature.ilike then
    w.condition s (.like l.expandIgnoreCase)
  else
    w.expr s l.text ++ " " ++ notIf l.negate ++ (if l.ignoreCase then "ILIKE " else "LIKE ") ++
      w.expr s l.pattern ++
      Draft.ofOption
        (fun c => Draft.text (" ESCAPE " ++ s.dialect.stringLiteral (String.singleton c))) l.escape?

/-- The words between an operand and its lower bound. -/
def betweenWords (negate symmetric : Bool) : String :=
  " " ++ notIf negate ++ "BETWEEN " ++ (if symmetric then "SYMMETRIC " else "")

/-- A value between two others. -/
def between (w : Writers) (s : Scope) (e low high : Expr) (negate symmetric : Bool) : Draft :=
  let native :=
    w.expr s e ++ betweenWords negate symmetric ++ w.expr s low ++ " AND " ++ w.expr s high
  if s.has Feature.betweenSymmetric then native
  else match Condition.expandBetween e low high negate symmetric with
    | some c => w.detour s c
    | none => native

/-- The parts of a list of at most `size` elements each. -/
def chunks (size : Nat) (es : List Expr) : List (List Expr) :=
  (List.range ((es.length + size - 1) / size)).map fun i => (es.drop (i * size)).take size

/-- A value in a list of elements. -/
def inChunk (w : Writers) (s : Scope) (e : Expr) (negate : Bool) (list : List Expr) : Draft :=
  w.expr s e ++ " " ++ notIf negate ++ "IN (" ++ w.exprs s list ++ ")"

/-- A value in a list. Oracle takes lists of limited length only. -/
def inList (w : Writers) (s : Scope) (e : Expr) (list : List Expr) (negate : Bool) : Draft :=
  if list.isEmpty then
    if negate then "1 = 1" else "1 = 0"
  else if s.family = .oracle ∧ Feature.inListLimit < list.length then
    let parts := (chunks Feature.inListLimit list).map (w.inChunk s e negate)
    "(" ++ Draft.separated (if negate then " AND " else " OR ") parts ++ ")"
  else
    w.inChunk s e negate list

/-- A value in a query. -/
def inSelect (w : Writers) (s : Scope) (e : Expr) (q : Select) (negate : Bool) : Draft :=
  w.expr s e ++ " " ++ notIf negate ++ "IN " ++ w.subquery s q

/-- Two values that differ, NULL being like NULL. -/
def isDistinct (w : Writers) (s : Scope) (a b : Expr) (negate : Bool) : Draft :=
  let around (words : String) := w.expr s a ++ words ++ w.expr s b
  if s.has Feature.isDistinctFrom then
    around (" IS " ++ notIf negate ++ "DISTINCT FROM ")
  else match s.family with
    | .sqlite => around (if negate then " IS " else " IS NOT ")
    | .mySql | .mariaDb => if negate then around " <=> " else "NOT (" ++ around " <=> " ++ ")"
    | _ => w.detour s (Condition.expandDistinct a b negate)

/-- Two rows compared. -/
def rowCompare (w : Writers) (s : Scope) (left : Row) (op : CompareOp) (right : Row) : Draft :=
  if s.has Feature.rowComparison && left.length == right.length then
    w.row s left ++ " " ++ op.sign ++ " " ++ w.row s right
  else
    w.detourOf s (Condition.expandRowCompare left op right)

/-- A row in a list of rows. -/
def rowInList (w : Writers) (s : Scope) (row : Row) (list : List Row) (negate : Bool) : Draft :=
  if list.isEmpty then
    w.condition s (.ofBool negate)
  else if s.has Feature.rowIn && list.all (fun r => r.length == row.length) then
    w.row s row ++ " " ++ notIf negate ++ "IN (" ++ Draft.commas (list.map (w.row s)) ++ ")"
  else
    w.detourOf s (Condition.expandRowIn row list negate)

/-- A row in a query. -/
def rowInSelect (w : Writers) (s : Scope) (row : Row) (q : Select) (negate : Bool) : Draft :=
  if s.has Feature.rowIn then
    w.row s row ++ " " ++ notIf negate ++ "IN " ++ w.subquery s q
  else
    w.detourOf s (Condition.expandRowInSelect row q negate)

/-- A row that is NULL. -/
def rowIsNull (w : Writers) (s : Scope) (row : Row) (negate : Bool) : Draft :=
  if s.has Feature.rowIsNull then
    w.row s row ++ " IS " ++ notIf negate ++ "NULL"
  else
    w.detour s (Condition.expandRowIsNull row negate)

/-- A row between two others. -/
def rowBetween (w : Writers) (s : Scope) (row low high : Row) (negate symmetric : Bool) : Draft :=
  let native := s.has Feature.rowBetween &&
    (!symmetric || s.has Feature.betweenSymmetric) &&
    low.length == row.length && high.length == row.length
  if native then
    w.row s row ++ betweenWords negate symmetric ++ w.row s low ++ " AND " ++ w.row s high
  else
    w.detourOf s (Condition.expandRowBetween row low high negate symmetric)

/-- One of two conditions, but not both. -/
def xor (w : Writers) (s : Scope) (c d : Condition) : Draft :=
  if s.has Feature.xor then
    w.junctionOperand s .xor c ++ " XOR " ++ w.junctionOperand s .xor d
  else
    w.detour s (Condition.expandXor c d)

/-- A truth value as a condition. -/
def holds (w : Writers) (s : Scope) (e : Expr) : Draft :=
  if s.has Feature.booleanValues then w.expr s e else w.expr s e ++ " = 1"

/-- A condition, by means of writers for its parts. -/
def draftCondition (w : Writers) (s : Scope) : Condition → Draft
  | .always => constantCondition s true
  | .never => constantCondition s false
  | .compare a op b => w.expr s a ++ " " ++ op.sign ++ " " ++ w.expr s b
  | .like l => w.like s l
  | .between e low high negate symmetric => w.between s e low high negate symmetric
  | .inList e list negate => w.inList s e list negate
  | .inSelect e q negate => w.inSelect s e q negate
  | .isNull e negate => w.expr s e ++ " IS " ++ notIf negate ++ "NULL"
  | .isDistinct a b negate => w.isDistinct s a b negate
  | .rowCompare left op right => w.rowCompare s left op right
  | .rowInList row list negate => w.rowInList s row list negate
  | .rowInSelect row q negate => w.rowInSelect s row q negate
  | .rowIsNull row negate => w.rowIsNull s row negate
  | .rowBetween row low high negate symmetric => w.rowBetween s row low high negate symmetric
  | .hasRows q negate => notIf negate ++ "EXISTS " ++ w.subquery s q
  | .not c => "NOT " ++ w.parenthesized s c
  | .and cs => w.junction s .and .always cs
  | .or cs => w.junction s .or .never cs
  | .xor c d => w.xor s c d
  | .holds e => w.holds s e

end Writers

end Polysql

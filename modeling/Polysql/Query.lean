import Polysql.Func
import Polysql.Operator
import Polysql.Value
/-!
Expressions, conditions, tables and queries: the trees that statements are made of. They refer to
each other freely, so they are one family of types.
-/

namespace Polysql

/-- A value that stands in an expression. It is bound as a parameter, unless it asks to be written
out. -/
structure Constant where
  /-- The value. -/
  value : Value
  /-- The type it is declared as. -/
  type : DataType
  /-- It is written out as a literal. -/
  inline : Bool
  /-- The name of its parameter. -/
  name? : Option String

/-- The constant that is bound as its natural type. -/
def Constant.ofValue (v : Value) : Constant :=
  ⟨v, v.dataType, false, none⟩

/-- A table by its name, with the columns that are known of it. -/
structure NamedTable where
  /-- The name in the database. -/
  name : Name
  /-- The name it goes by in the query. -/
  alias? : Option Name
  /-- The names of its columns, unqualified. -/
  columns : List Name

/-- The name of a derived table, and names for its columns if they are given. -/
structure TableAlias where
  /-- The name. -/
  name : Name
  /-- The names of the columns. -/
  columns : List Name

/-- How many rows a query yields, and how many it leaves out before. -/
structure Limit where
  /-- The number of rows. -/
  count? : Option UInt64
  /-- The number of rows that are left out. -/
  offset? : Option UInt64

/-- Nothing is limited. -/
def Limit.isEmpty (l : Limit) : Bool :=
  l.count?.isNone && l.offset?.isNone

mutual

/-- An expression, which has a value. -/
inductive Expr where
  | constant (c : Constant)
  | field (name : Name) (type : DataType)
  /-- All columns, of one table or of all. -/
  | asterisk (table? : Option Name)
  | arith (op : ArithOp) (left right : Expr)
  | neg (e : Expr)
  /-- A bitwise operation; the complement has no right operand. -/
  | bit (op : BitOp) (left : Expr) (right? : Option Expr)
  | call (c : Call)
  /-- The value of the first branch whose condition is true. -/
  | caseWhen (branches : List (Condition × Expr)) (otherwise? : Option Expr)
  /-- The value of the first branch that is equal to the operand. -/
  | caseOf (operand : Expr) (branches : List (Expr × Expr)) (otherwise? : Option Expr)
  | cast (e : Expr) (type : DataType)
  /-- A condition as a value. -/
  | condition (c : Condition)
  /-- The value of a query with one row and one column. -/
  | subquery (q : Select)
  | sequence (op : SequenceOp) (name : Name)
  /-- The default of the column that is assigned. -/
  | columnDefault

/-- The call of a function. -/
structure Call where
  /-- The function. -/
  func : Func
  /-- The arguments. -/
  args : List Expr
  /-- Equal arguments count once. -/
  distinct : Bool
  /-- The rows that an aggregate runs over. -/
  filter? : Option Condition

/-- A condition, which is true, false or unknown. -/
inductive Condition where
  /-- Always true. -/
  | always
  /-- Always false. -/
  | never
  | compare (left : Expr) (op : CompareOp) (right : Expr)
  /-- The text matches a pattern. -/
  | like (l : Like)
  | between (e low high : Expr) (negate symmetric : Bool)
  | inList (e : Expr) (list : List Expr) (negate : Bool)
  | inSelect (e : Expr) (q : Select) (negate : Bool)
  | isNull (e : Expr) (negate : Bool)
  | isDistinct (left right : Expr) (negate : Bool)
  | rowCompare (left : List Expr) (op : CompareOp) (right : List Expr)
  | rowInList (row : List Expr) (list : List (List Expr)) (negate : Bool)
  | rowInSelect (row : List Expr) (q : Select) (negate : Bool)
  | rowIsNull (row : List Expr) (negate : Bool)
  | rowBetween (row low high : List Expr) (negate symmetric : Bool)
  | hasRows (q : Select) (negate : Bool)
  | not (c : Condition)
  | and (cs : List Condition)
  | or (cs : List Condition)
  | xor (left right : Condition)
  /-- A truth value as a condition. -/
  | holds (e : Expr)

/-- A text that is matched with a pattern. -/
structure Like where
  /-- The text. -/
  text : Expr
  /-- The pattern. -/
  pattern : Expr
  /-- The text must not match. -/
  negate : Bool
  /-- Capital and small letters are the same. -/
  ignoreCase : Bool
  /-- The character that takes the next one literally. -/
  escape? : Option Char

/-- A query. Its order and its limit apply to what its set operations yield. -/
structure Select where
  /-- Queries that are named in front. -/
  with? : Option With := none
  /-- Which rows count as equal and are yielded once. -/
  distinct? : Option Distinct := none
  /-- What is selected; everything when there is nothing. -/
  fields : List SelectField := []
  /-- The tables. -/
  tables : List Table := []
  /-- The condition on rows. -/
  filter? : Option Condition := none
  /-- The expressions that form groups. -/
  groupBy : List Expr := []
  /-- The condition on groups. -/
  having? : Option Condition := none
  /-- The queries whose rows are combined with those of this one. -/
  setOps : List SetOperation := []
  /-- The order of the rows. -/
  orderBy : List OrderItem := []
  /-- The limit. -/
  limit? : Option Limit := none
  /-- The rows are locked. -/
  forUpdate : Bool := false

/-- Something that is selected, with a name if it is given one. -/
structure SelectField where
  /-- The expression. -/
  expr : Expr
  /-- Its name. -/
  alias? : Option Name

/-- Which rows of a query count as equal. -/
inductive Distinct where
  /-- Those that are equal in all columns. -/
  | all
  /-- Those for which some expressions are equal. -/
  | on (exprs : List Expr)

/-- Queries that are named in front of another. -/
structure With where
  /-- A query can refer to itself. -/
  recursive : Bool
  /-- The queries. -/
  ctes : List Cte

/-- A query that is named in front of another. -/
structure Cte where
  /-- Its name. -/
  name : Name
  /-- The names of its columns, if they are given. -/
  columns : List Name
  /-- The query. -/
  select : Select

/-- A query whose rows are combined with those of the queries before it. -/
structure SetOperation where
  /-- The operation. -/
  op : SetOp
  /-- Equal rows are kept. -/
  all : Bool
  /-- The query. -/
  select : Select

/-- An expression that rows are ordered by. -/
structure OrderItem where
  /-- The expression. -/
  expr : Expr
  /-- The direction. -/
  direction? : Option Direction
  /-- Where NULL comes. -/
  nulls? : Option Nulls

/-- A table: something that rows come from. -/
inductive Table where
  | named (t : NamedTable)
  /-- The rows of a query. -/
  | derived (q : Select) (called : TableAlias)
  | join (j : Join)
  /-- Rows that are written out. -/
  | values (rows : List (List Expr)) (called : TableAlias)
  /-- A row for every element, numbered if asked for. -/
  | unnest (elements : List Expr) (called : TableAlias) (ordinality : Bool)
  /-- The rows of functions, side by side. -/
  | rowsFrom (functions : List Call) (called : TableAlias)
  /-- A table that can refer to those before it. -/
  | lateral (t : Table)
  /-- The table of one row. -/
  | dual

/-- Two tables side by side. -/
structure Join where
  /-- The left table. -/
  left : Table
  /-- The right table. -/
  right : Table
  /-- The kind of the join. -/
  type : JoinType
  /-- The condition on the rows of both. -/
  on? : Option Condition
  /-- The columns that must be equal, if they are given by name. -/
  using_ : List Name

end

instance : Inhabited Expr := ⟨.columnDefault⟩

instance : Inhabited Condition := ⟨.always⟩

instance : Inhabited Call := ⟨⟨.random, [], false, none⟩⟩

instance : Inhabited Select := ⟨{}⟩

instance : Inhabited Cte := ⟨⟨.empty, [], {}⟩⟩

instance : Inhabited Table := ⟨.dual⟩

instance : Inhabited Join := ⟨⟨.dual, .dual, .cross, none, []⟩⟩

/-- A row of values. -/
abbrev Row := List Expr

end Polysql

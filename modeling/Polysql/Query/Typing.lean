import Polysql.Query
/-!
The type of an expression, as far as it can be seen without the database. It decides which detour a
cast takes.
-/

namespace Polysql

/-- The type of a call whose arguments have the given types. -/
def Func.resultType (f : Func) (args : List DataType) : DataType :=
  match f with
  | .count => .bigInt
  | .charLength | .position | .sign => .integer
  | .upper | .lower | .trim | .trimStart | .trimEnd | .concat | .substring | .replace | .replicate
  | .padStart | .padEnd | .left | .right => .varChar none
  | .currentDate => .date
  | .currentTimestamp => .timestamp
  | .sqrt | .exp | .ln | .log | .power | .sin | .cos | .tan | .sinh | .cosh | .tanh | .coth
  | .random => .double
  | _ => .firstKnown args

mutual

/-- The type of an expression, or that it is not known. -/
def Expr.type : Expr → DataType
  | .constant c => c.type
  | .field _ type => type
  | .asterisk _ => .unknown
  | .arith _ a b => .firstKnown [a.type, b.type]
  | .neg e => e.type
  | .bit _ a _ => a.type
  | .call ⟨f, args, _, _⟩ => f.resultType (typesOf args)
  | .caseWhen branches otherwise? => .firstKnown (branchTypes branches ++ optionalType otherwise?)
  | .caseOf _ branches otherwise? => .firstKnown (caseTypes branches ++ optionalType otherwise?)
  | .cast _ type => type
  | .condition _ => .boolean
  | .subquery ⟨_, _, fields, _, _, _, _, _, _, _, _⟩ => firstFieldType fields
  | .sequence _ _ => .bigInt
  | .columnDefault => .unknown

/-- The types of several expressions. -/
def typesOf : List Expr → List DataType
  | [] => []
  | e :: es => e.type :: typesOf es

/-- The type of an expression that may be absent. -/
def optionalType : Option Expr → List DataType
  | none => []
  | some e => [e.type]

/-- The types of the values of branches. -/
def branchTypes : List (Condition × Expr) → List DataType
  | [] => []
  | (_, e) :: bs => e.type :: branchTypes bs

/-- The types of the values of cases. -/
def caseTypes : List (Expr × Expr) → List DataType
  | [] => []
  | (_, e) :: bs => e.type :: caseTypes bs

/-- The type of the first column of a query. -/
def firstFieldType : List SelectField → DataType
  | [] => .unknown
  | ⟨e, _⟩ :: _ => e.type

end

/-- The type of a call. -/
def Call.type (c : Call) : DataType :=
  c.func.resultType (c.args.map Expr.type)

end Polysql

import Polysql.Draft.Scope
/-!
Drafts of limits. The engines know five forms, which stand in front of what is selected, at the end
of the query, or around it.
-/

namespace Polysql

/-- How an engine limits the rows of a query. -/
inductive LimitForm where
  /-- `LIMIT n OFFSET m` at the end. -/
  | limitOffset
  /-- `OFFSET m ROWS FETCH NEXT n ROWS ONLY` at the end. -/
  | fetchNext
  /-- `TOP n` in front; a query with an offset has the form `fetchNext`. -/
  | top
  /-- `FIRST n SKIP m` in front. -/
  | firstSkip
  /-- A condition on `ROWNUM` around the query. -/
  | rowNumber
deriving DecidableEq, Repr

/-- The form of limits on an engine. -/
def Dialect.limitForm (d : Dialect) : LimitForm :=
  match d.family with
  | .sqlServer | .sybase => .top
  | .oracle => if d = .oracle11g then .rowNumber else .fetchNext
  | .db2 | .derby => .fetchNext
  | .firebird => if d = .firebird2_5 then .firstSkip else .fetchNext
  | _ => .limitOffset

/-- The limit of a query, if it limits anything. -/
def Select.limited? (q : Select) : Option Limit :=
  q.limit?.filter fun l => !l.isEmpty

/-- The limit can stand in front as a number of rows. -/
def Limit.fitsTop (l : Limit) (q : Select) : Bool :=
  l.offset?.isNone && q.setOps.isEmpty

/-- The last row that is kept, counted from the first one. The count stops at the greatest number of
64 bits. -/
def Limit.lastRow (count offset : UInt64) : Nat :=
  min (count.toNat + offset.toNat) (UInt64.size - 1)

namespace Draft

/-- A number of rows. -/
def rowCount (n : UInt64) : Draft :=
  number n.toNat

/-- `FIRST n SKIP m`. -/
def firstSkip (s : Scope) (q : Select) (l : Limit) : Draft :=
  if q.setOps.isEmpty then
    ofOption (fun n => "FIRST " ++ rowCount n ++ " ") l.count? ++
      ofOption (fun m => "SKIP " ++ rowCount m ++ " ") l.offset?
  else
    s.refuse "FIRST and SKIP on a compound query"

/-- The part of a limit that stands in front of what is selected. -/
def limitInFront (s : Scope) (q : Select) : Draft :=
  ofOption (fun l =>
    match s.dialect.limitForm with
    | .top => onlyIf (l.fitsTop q) (ofOption (fun n => "TOP " ++ rowCount n ++ " ") l.count?)
    | .firstSkip => firstSkip s q l
    | _ => empty) q.limited?

/-- `OFFSET m ROWS FETCH NEXT n ROWS ONLY`. -/
def offsetFetch (s : Scope) (l : Limit) : Draft :=
  ofOption (fun m => s.clause "OFFSET " ++ rowCount m ++ " ROWS") l.offset? ++
    ofOption (fun n => s.clause "FETCH NEXT " ++ rowCount n ++ " ROWS ONLY") l.count?

/-- The limit beside an offset where there is no limit and the engine asks for one: the greatest
number of rows, or a negative number. -/
def unlimited (s : Scope) : Draft :=
  match s.family with
  | .mySql | .mariaDb => s.clause "LIMIT " ++ number (UInt64.size - 1)
  | .sqlite => s.clause "LIMIT -1"
  | _ => empty

/-- `LIMIT n OFFSET m`. -/
def limitOffset (s : Scope) (l : Limit) : Draft :=
  match l.count?, l.offset? with
  | some n, m? =>
    s.clause "LIMIT " ++ rowCount n ++ ofOption (fun m => s.clause "OFFSET " ++ rowCount m) m?
  | none, some m => unlimited s ++ s.clause "OFFSET " ++ rowCount m
  | none, none => empty

/-- `OFFSET` and `FETCH` on an engine that has them beside an `ORDER BY` only. -/
def orderedOffsetFetch (s : Scope) (q : Select) (l : Limit) : Draft :=
  if s.family = .sybase then
    s.refuse "OFFSET"
  else
    onlyIf q.orderBy.isEmpty (s.clause "ORDER BY (SELECT 0)") ++
      offsetFetch s { l with offset? := some (l.offset?.getD 0) }

/-- The part of a limit that stands at the end of a query. -/
def limitAtEnd (s : Scope) (q : Select) : Draft :=
  ofOption (fun l =>
    match s.dialect.limitForm with
    | .limitOffset => limitOffset s l
    | .fetchNext => offsetFetch s l
    | .top => onlyIf (!l.fitsTop q) (orderedOffsetFetch s q l)
    | .firstSkip | .rowNumber => empty) q.limited?

end Draft

/-- A limit around a query by the numbers of its rows. -/
def Writers.rowNumbered (w : Writers) (s : Scope) (q : Select) (l : Limit) : Draft :=
  let all := w.select s.inQuery { q with limit? := none }
  match l.count?, l.offset? with
  | some n, none =>
    "SELECT * FROM (" ++ all ++ ") q" ++ s.clause "WHERE ROWNUM <= " ++ Draft.rowCount n
  | n?, m? =>
    let m := m?.getD 0
    "SELECT * FROM (SELECT q.*, ROWNUM rn FROM (" ++ all ++ ") q" ++
      Draft.ofOption
        (fun n => " WHERE ROWNUM <= " ++ Draft.number (Limit.lastRow n m)) n? ++
      ")" ++ s.clause "WHERE rn > " ++ Draft.rowCount m

end Polysql

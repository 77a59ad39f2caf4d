import Polysql.Query.Rank
import Polysql.Statement
/-!
The rank of a statement, which bounds how deep its draft goes as the ranks of its parts do.
-/

namespace Polysql

/-- The highest rank of the rows of an insert. -/
def InsertSource.rank : InsertSource → Nat
  | .values rows => rankOfRows rows
  | .query q => q.rank
  | .defaults => 1

/-- The rank of an assignment. -/
def Assignment.rank : Assignment → Nat
  | .column _ e => e.rank
  | .row _ (.row r) => rankOfExprs r
  | .row _ (.query q) => 1 + q.rank

/-- The highest rank of several assignments. -/
def rankOfAssignments (as : List Assignment) : Nat :=
  as.foldr (fun a n => max a.rank n) 1

/-- The highest rank of the defaults of several columns. -/
def rankOfDefaults (cs : List ColumnDefinition) : Nat :=
  cs.foldr (fun c n => max (rankOfOption c.default?) n) 1

/-- The rank of an insert, whose rows may become a query. -/
def Insert.rank (i : Insert) : Nat :=
  6 + max i.source.rank (rankOfExprs i.returning)

/-- The rank of a change of the rows of a table, which may become a membership of keys. -/
def rankOfChange (table : Table) (tables : List Table) (filter? : Option Condition)
    (orderBy : List OrderItem) (returning : List Expr) : Nat :=
  20 + max table.rank (max (rankOfTables tables) (max (rankOfFilter filter?)
    (max (rankOfOrder orderBy) (rankOfExprs returning))))

/-- The rank of an update. -/
def Update.rank (u : Update) : Nat :=
  max (1 + rankOfAssignments u.assignments)
    (rankOfChange u.table u.tables u.filter? u.orderBy u.returning)

/-- The rank of a delete. -/
def Delete.rank (d : Delete) : Nat :=
  rankOfChange d.table d.tables d.filter? d.orderBy d.returning

mutual

/-- The rank of a statement. -/
def Statement.rank : Statement → Nat
  | .select q => 1 + q.rank
  | .insert i => 1 + i.rank
  | .update u => 1 + u.rank
  | .delete d => 1 + d.rank
  | .createIndex c => 1 + rankOfFilter c.filter?
  | .createTable c => 1 + rankOfDefaults c.columns
  | .dropIndex _ | .truncate _ | .createSequence _ | .dropSequence _ | .dropTable _ => 1
  | .block ⟨_, ss⟩ => 1 + rankOfStatements ss

/-- The highest rank of several statements. -/
def rankOfStatements : List Statement → Nat
  | [] => 1
  | s :: ss => max s.rank (rankOfStatements ss)

end

end Polysql

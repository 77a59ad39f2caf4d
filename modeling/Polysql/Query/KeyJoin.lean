import Polysql.Catalog
import Polysql.Error
import Polysql.Query.Columns
/-!
Giving a join its condition: directly, by column names, or by the one foreign key that relates its
two sides.
-/

namespace Polysql.Join

/-- A join without a condition. -/
def between (left right : Table) (type : JoinType) : Join :=
  ⟨left, right, type, none, []⟩

/-- A further condition beside those given. -/
def onBoth (j : Join) (c : Condition) : Join :=
  { j with on? := Condition.add j.on? c }

/-- A condition that can be met instead of those given. -/
def onEither (j : Join) (c : Condition) : Join :=
  match j.on? with
  | some d => { j with on? := some (d.either c) }
  | none => { j with on? := some c }

/-- The columns that must be equal, by name. -/
def usingColumns (j : Join) (columns : List String) : Join :=
  { j with using_ := columnNames columns }

/-- Equality of the columns of a foreign key with those it refers to, each qualified with its
table's reference. -/
def keyCondition (owner target : NamedTable) (k : ForeignKey) : Condition :=
  .all ((k.columns.zip k.targetColumns).map fun (c, d) =>
    Condition.equals (.column (owner.reference ++ Name.ofText c))
      (.column (target.reference ++ Name.ofText d)))

/-- The foreign keys of `owner` that refer to `target`, with their conditions. -/
def keysBetween (owner target : NamedTable × TableInfo) : List (String × Condition) :=
  (owner.2.references target.2).map fun k => (k.name, keyCondition owner.1 target.1 k)

/-- The join on the one foreign key that relates the last named table of the right side to a named
table of the left side, in either direction. -/
def onKey (catalog : Catalog) (j : Join) : Except Error Join :=
  match j.right.namedTables.getLast? with
  | none => .error (.invalidStatement "ON KEY requires a named table on the right-hand side")
  | some right =>
    let leftTables := j.left.namedTables
    let leftName := (leftTables.getLast?.map NamedTable.name).getD .empty
    match catalog.table? right.name with
    | none => .error (.ofCause (.keyNotFound leftName right.name))
    | some rightInfo =>
      let known := leftTables.filterMap fun t => (catalog.table? t.name).map fun info => (t, info)
      let forward := known.flatMap fun t => keysBetween t (right, rightInfo)
      let backward := known.flatMap fun t => keysBetween (right, rightInfo) t
      match forward ++ backward with
      | [] => .error (.ofCause (.keyNotFound leftName right.name))
      | [(_, c)] => .ok (j.onBoth c)
      | _ => .error (.ofCause
          (.ambiguousKey leftName right.name (forward.map (·.1)) (backward.map (·.1))))

end Polysql.Join

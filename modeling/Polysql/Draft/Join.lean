import Polysql.Draft.Table
import Polysql.Query.KeyJoin
/-!
Drafts of joins. A semi or anti join is written as such only by a few engines. Elsewhere the draft
keeps its left side, and a condition of the enclosing statement takes over the rest: the conditions
that `absorbed` collects, in the order in which the joins stand.
-/

namespace Polysql

namespace Table

/-- The conditions that take over the semi and anti joins of a table on an engine. -/
def absorbed (d : Dialect) : Table → List Condition
  | .join ⟨l, r, type, on?, using_⟩ =>
    if Feature.semiJoin.contains d then []
    else if type.isSemiOrAnti then Join.toExists ⟨l, r, type, on?, using_⟩ :: absorbed d l
    else absorbed d l ++ absorbed d r
  | .lateral t => absorbed d t
  | _ => []

/-- The table itself, if it is marked as one that can refer to those before it. -/
def withoutLateral : Table → Table
  | .lateral t => t
  | t => t

end Table

namespace Scope

/-- The words of a join on the engine. -/
def joinKeyword (s : Scope) (type : JoinType) : String :=
  if type = .straight ∧ !s.has Feature.straightJoin then JoinType.inner.keyword else type.keyword

/-- Goes on if the engine has the outer join. -/
def ifOuterJoin (s : Scope) (type : JoinType) (d : Draft) : Draft :=
  if type = .full ∧ s.has Feature.withoutFullJoin then
    s.refuse "FULL JOIN"
  else if (type = .right ∨ type = .full) ∧ s.has Feature.withoutRightJoin then
    s.refuse "RIGHT and FULL JOIN"
  else
    d

end Scope

namespace Writers

/-- The right side of a join. -/
def rightSide (w : Writers) (s : Scope) (t : Table) : Draft :=
  match t with
  | .join _ => "(" ++ w.table s t ++ ")"
  | _ => w.table s t

/-- Both sides of a join, with words between them. -/
def sides (w : Writers) (s : Scope) (left : Table) (words : String) (right : Table) : Draft :=
  w.table s left ++ " " ++ words ++ " " ++ w.rightSide s right

/-- A join on a condition. -/
def joinOn (w : Writers) (s : Scope) (j : Join) (type : JoinType) (c : Condition) : Draft :=
  s.ifOuterJoin type
    (w.sides s j.left (s.joinKeyword type) j.right ++ " ON " ++ w.condition s c)

/-- A semi or anti join. -/
def semiJoin (w : Writers) (s : Scope) (j : Join) : Draft :=
  if s.has Feature.semiJoin then w.joinOn s j j.type j.condition
  else if s.absorbs then w.table s j.left
  else s.refuse "semi and anti joins outside of a WHERE-capable query"

/-- A join whose right side is computed for every row of the left one. -/
def apply (w : Writers) (s : Scope) (j : Join) : Draft :=
  if s.has Feature.apply then
    w.sides s j.left j.type.keyword j.right
  else if !s.has Feature.applyAsLateral then
    s.refuse "APPLY"
  else if j.type = .outerApply then
    w.sides s j.left "LEFT OUTER JOIN LATERAL" j.right.withoutLateral ++ " ON " ++
      w.condition s .always
  else
    w.sides s j.left "CROSS JOIN LATERAL" j.right.withoutLateral

/-- A natural join. -/
def naturalJoin (w : Writers) (s : Scope) (j : Join) : Draft :=
  if s.has Feature.naturalJoin then
    s.ifOuterJoin j.type.withoutNatural (w.sides s j.left j.type.keyword j.right)
  else
    w.joinOn s j j.type.withoutNatural j.naturalCondition

/-- A join by column names. -/
def usingJoin (w : Writers) (s : Scope) (j : Join) : Draft :=
  if s.has Feature.joinUsing then
    s.ifOuterJoin j.type
      (w.sides s j.left (s.joinKeyword j.type) j.right ++
        " USING (" ++ Draft.unqualifiedNames j.using_ ++ ")")
  else
    w.joinOn s j j.type j.usingCondition

/-- A join. -/
def join (w : Writers) (s : Scope) (j : Join) : Draft :=
  if j.type.isSemiOrAnti then w.semiJoin s j
  else if j.type.isApply then w.apply s j
  else if j.type.isNatural then w.naturalJoin s j
  else if j.type = .cross then w.sides s j.left j.type.keyword j.right
  else if !j.using_.isEmpty then w.usingJoin s j
  else w.joinOn s j j.type (j.on?.getD .always)

/-- A table, by means of writers for its parts. -/
def draftTable (w : Writers) (s : Scope) : Table → Draft
  | .named t => Draft.namedTable s t
  | .derived q called => w.derived s q called
  | .join j => w.join s j
  | .values rows called => w.valuesTable s rows called
  | .unnest elements called ordinality => w.unnest s elements called ordinality
  | .rowsFrom functions called => w.rowsFrom s functions called
  | .lateral t => w.lateral s t
  | .dual => s.family.dual

end Writers

end Polysql

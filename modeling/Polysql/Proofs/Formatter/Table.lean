import Polysql.Proofs.Formatter.Part
/-!
Tables on a formatter. A semi or anti join that the engine lacks leaves its condition with the
formatter, where there is a condition that takes it over, and goes on with its left side. So what a
table adds to the conditions of the formatter is what it absorbs (`Table.absorbed`).
-/

namespace Polysql

namespace Table

/-- Engines with semi and anti joins leave nothing to a condition. -/
lemma absorbed_of_semiJoin {d : Dialect} (h : Feature.semiJoin.contains d = true) :
    ∀ t : Table, t.absorbed d = []
  | .join ⟨_, _, _, _, _⟩ => by rw [absorbed, if_pos h]
  | .lateral t => by rw [absorbed, absorbed_of_semiJoin h t]
  | .named _ | .derived _ _ | .values _ _ | .unnest _ _ _ | .rowsFrom _ _ | .dual => rfl

/-- A join that is written leaves to a condition what its sides leave to it. -/
lemma absorbed_join {d : Dialect} {j : Join}
    (h : j.type.isSemiOrAnti = false ∨ Feature.semiJoin.contains d = true) :
    (Table.join j).absorbed d = j.left.absorbed d ++ j.right.absorbed d := by
  by_cases hd : Feature.semiJoin.contains d = true
  · rw [absorbed_of_semiJoin hd, absorbed_of_semiJoin hd, absorbed_of_semiJoin hd, List.nil_append]
  · obtain ⟨l, r, type, on?, using_⟩ := j
    rw [absorbed, if_neg hd, if_neg (by simpa using h.resolve_right hd)]

/-- A semi or anti join that the engine lacks leaves itself and what its left side leaves. -/
lemma absorbed_semiJoin {d : Dialect} {j : Join} (h : j.type.isSemiOrAnti = true)
    (hd : ¬Feature.semiJoin.contains d = true) :
    (Table.join j).absorbed d = j.toExists :: j.left.absorbed d := by
  obtain ⟨l, r, type, on?, using_⟩ := j
  rw [absorbed, if_neg hd, if_pos h]

lemma absorbed_withoutLateral (d : Dialect) (t : Table) :
    t.withoutLateral.absorbed d = t.absorbed d := by
  cases t <;> simp [withoutLateral, absorbed]

end Table

namespace Formatters

section

variable (m : Formatters)

/-! ### Tables other than joins -/

/-- The alias of a table, with names for its columns if there are any. -/
def tableAlias (name : Name) (columns : List Name) : Formatting Unit :=
  .emit fun s => .tableAlias s name columns

/-- A table of the database. -/
def namedTable (t : NamedTable) : Formatting Unit :=
  .emit fun s => .namedTable s t

/-- The table of one row. -/
def dual : Formatting Unit :=
  .emit fun s => s.family.dual

/-- A query under a name. -/
def aliasedQuery (q : Select) (name : Name) : Formatting Unit :=
  m.subquery q ++ tableAlias name []

/-- The rows of a query. -/
def derived (q : Select) (called : TableAlias) : Formatting Unit := .asking fun s =>
  if called.columns.isEmpty || s.has Feature.aliasColumns then
    m.subquery q ++ tableAlias called.name called.columns
  else
    m.aliasedQuery (q.renamed called.name called.columns) called.name

/-- Rows that are written out. -/
def valuesTable (rows : List Row) (called : TableAlias) : Formatting Unit := .asking fun s =>
  let columns := called.valuesColumns rows
  let written (rows : List (Formatting Unit)) :=
    "(VALUES " ++ Formatting.commas rows ++ ")" ++ tableAlias called.name columns
  if rows.isEmpty then
    m.aliasedQuery (.ofRows rows columns) called.name
  else if s.has Feature.valuesTable then
    written (rows.map m.row)
  else if s.has Feature.valuesOfRows then
    written (rows.map fun r => "ROW" ++ m.row r)
  else
    m.aliasedQuery (.ofRows rows columns) called.name

/-- A row for every element. -/
def unnest (elements : List Expr) (called : TableAlias) (ordinality : Bool) :
    Formatting Unit := .asking fun s =>
  let columns := called.unnestColumns ordinality
  if elements.isEmpty || !s.has Feature.unnest then
    m.aliasedQuery (.ofRows (unnestRows elements ordinality) columns) called.name
  else
    "UNNEST(ARRAY[" ++ m.exprs elements ++ "])" ++
      Formatting.onlyIf ordinality " WITH ORDINALITY" ++ tableAlias called.name columns

/-- The rows of functions, side by side. -/
def rowsFrom (functions : List Call) (called : TableAlias) : Formatting Unit := .asking fun s =>
  if s.has Feature.rowsFrom then
    "ROWS FROM (" ++ Formatting.commas (functions.map m.call) ++ ")" ++
      tableAlias called.name called.columns
  else
    .refuse "ROWS FROM"

/-- A table that can refer to those before it. -/
def lateral (t : Table) : Formatting Unit := .asking fun s =>
  if s.has Feature.lateral then "LATERAL " ++ m.table t else .refuse "LATERAL"

/-! ### Joins -/

/-- Goes on if the engine has the outer join. -/
def ifOuterJoin (type : JoinType) (r : Formatting Unit) : Formatting Unit := .asking fun s =>
  if type = .full ∧ s.has Feature.withoutFullJoin then
    .refuse "FULL JOIN"
  else if (type = .right ∨ type = .full) ∧ s.has Feature.withoutRightJoin then
    .refuse "RIGHT and FULL JOIN"
  else
    r

/-- The right side of a join. -/
def rightSide (t : Table) : Formatting Unit :=
  match t with
  | .join _ => "(" ++ m.table t ++ ")"
  | _ => m.table t

/-- Both sides of a join, with words between them. -/
def sides (left : Table) (words : String) (right : Table) : Formatting Unit :=
  m.table left ++ " " ++ words ++ " " ++ m.rightSide right

/-- A join on a condition. -/
def joinOn (j : Join) (type : JoinType) (c : Condition) : Formatting Unit := .asking fun s =>
  ifOuterJoin type (m.sides j.left (s.joinKeyword type) j.right ++ " ON " ++ m.condition c)

/-- A semi or anti join. -/
def semiJoin (j : Join) : Formatting Unit := .asking fun s =>
  if s.has Feature.semiJoin then m.joinOn j j.type j.condition
  else if s.absorbs then .absorb j.toExists ++ m.table j.left
  else .refuse "semi and anti joins outside of a WHERE-capable query"

/-- A join whose right side is computed for every row of the left one. -/
def apply (j : Join) : Formatting Unit := .asking fun s =>
  if s.has Feature.apply then
    m.sides j.left j.type.keyword j.right
  else if !s.has Feature.applyAsLateral then
    .refuse "APPLY"
  else if j.type = .outerApply then
    m.sides j.left "LEFT OUTER JOIN LATERAL" j.right.withoutLateral ++ " ON " ++
      m.condition .always
  else
    m.sides j.left "CROSS JOIN LATERAL" j.right.withoutLateral

/-- A natural join. -/
def naturalJoin (j : Join) : Formatting Unit := .asking fun s =>
  if s.has Feature.naturalJoin then
    ifOuterJoin j.type.withoutNatural (m.sides j.left j.type.keyword j.right)
  else
    m.joinOn j j.type.withoutNatural j.naturalCondition

/-- A join by column names. -/
def usingJoin (j : Join) : Formatting Unit := .asking fun s =>
  if s.has Feature.joinUsing then
    ifOuterJoin j.type
      (m.sides j.left (s.joinKeyword j.type) j.right ++
        " USING (" ++ .lastParts j.using_ ++ ")")
  else
    m.joinOn j j.type j.usingCondition

/-- A join. -/
def join (j : Join) : Formatting Unit :=
  if j.type.isSemiOrAnti then m.semiJoin j
  else if j.type.isApply then m.apply j
  else if j.type.isNatural then m.naturalJoin j
  else if j.type = .cross then m.sides j.left j.type.keyword j.right
  else if !j.using_.isEmpty then m.usingJoin j
  else m.joinOn j j.type (j.on?.getD .always)

/-- A table, by means of formatters for its parts. -/
def formatTable : Table → Formatting Unit
  | .named t => namedTable t
  | .derived q called => m.derived q called
  | .join j => m.join j
  | .values rows called => m.valuesTable rows called
  | .unnest elements called ordinality => m.unnest elements called ordinality
  | .rowsFrom functions called => m.rowsFrom functions called
  | .lateral t => m.lateral t
  | .dual => dual

end

section

variable {s : Scope}

@[grind ←]
lemma renders_tableAlias (name : Name) (columns : List Name) :
    (tableAlias name columns).Renders s (.tableAlias s name columns) :=
  Formatting.renders_emit rfl

lemma renders_namedTable (t : NamedTable) : (namedTable t).Renders s (.namedTable s t) :=
  Formatting.renders_emit rfl

@[grind ←]
lemma renders_dual : dual.Renders s (.text s.family.dual) :=
  Formatting.renders_emit rfl

/-- What a join leaves to a condition is left if the engine has the join. -/
lemma yields_ifOuterJoin {type : JoinType} {r : Formatting Unit} {d : Draft}
    {cs : List Condition} (h : r.Yields s d cs ()) :
    (ifOuterJoin type r).Yields s (s.ifOuterJoin type d) cs () := by
  have hrefuse (feature : String) :=
    (Formatting.renders_refuse (s := s) feature).yields_of_failed rfl cs
  rw [Scope.ifOuterJoin]
  refine .asking ?_
  split
  · exact hrefuse "FULL JOIN"
  · split
    · exact hrefuse "RIGHT and FULL JOIN"
    · exact h

end

namespace Follows

variable {m : Formatters} {w : Writers} (h : m.Follows w) (s : Scope)
include h

/-! ### Tables other than joins -/

@[grind ←]
lemma aliasedQuery (q : Select) (name : Name) :
    (m.aliasedQuery q name).Renders s (w.aliasedQuery s q name) := by
  rw [Formatters.aliasedQuery, Writers.aliasedQuery]
  grind

lemma derived (q : Select) (called : TableAlias) :
    (m.derived q called).Renders s (w.derived s q called) := by
  rw [Formatters.derived, Writers.derived]
  refine .asking ?_
  split <;> grind

lemma valuesTable (rows : List Row) (called : TableAlias) :
    (m.valuesTable rows called).Renders s (w.valuesTable s rows called) := by
  rw [Formatters.valuesTable, Writers.valuesTable]
  refine .asking ?_
  split <;> grind

lemma unnest (elements : List Expr) (called : TableAlias) (ordinality : Bool) :
    (m.unnest elements called ordinality).Renders s (w.unnest s elements called ordinality) := by
  rw [Formatters.unnest, Writers.unnest]
  refine .asking ?_
  split <;> grind

lemma rowsFrom (functions : List Call) (called : TableAlias) :
    (m.rowsFrom functions called).Renders s (w.rowsFrom s functions called) := by
  rw [Formatters.rowsFrom, Writers.rowsFrom]
  refine .asking ?_
  split <;> grind

lemma lateral (t : Table) :
    (m.lateral t).Yields s (w.lateral s t) (t.absorbed s.dialect) () := by
  rw [Formatters.lateral, Writers.lateral]
  refine .asking ?_
  split
  · exact (Formatting.renders_text _).append_yields (h.table s t)
  · exact (Formatting.renders_refuse _).yields_of_failed rfl _

/-! ### Joins -/

lemma rightSide (t : Table) :
    (m.rightSide t).Yields s (w.rightSide s t) (t.absorbed s.dialect) () := by
  rw [Formatters.rightSide.eq_def, Writers.rightSide.eq_def]
  cases t with
  | join j =>
    exact ((Formatting.renders_text _).append_yields (h.table s _)).append_renders
      (Formatting.renders_text _)
  | _ => exact h.table s _

lemma sides (left : Table) (words : String) (right : Table) :
    (m.sides left words right).Yields s (w.sides s left words right)
      (left.absorbed s.dialect ++ right.absorbed s.dialect) () := by
  have hwords (t : String) := Formatting.renders_text (s := s) t
  exact ((((h.table s left).append_renders (hwords " ")).append_renders
    (hwords words)).append_renders (hwords " ")).append (h.rightSide s right)

lemma joinOn (j : Join) (type : JoinType) (c : Condition) :
    (m.joinOn j type c).Yields s (w.joinOn s j type c)
      (j.left.absorbed s.dialect ++ j.right.absorbed s.dialect) () :=
  .asking (yields_ifOuterJoin (((h.sides s _ _ _).append_renders
    (Formatting.renders_text _)).append_renders (h.condition s c)))

/-- The condition of the join comes before those of its left side. -/
lemma semiJoin {j : Join} (hj : j.type.isSemiOrAnti = true) :
    (m.semiJoin j).Yields s (w.semiJoin s j) ((Table.join j).absorbed s.dialect) () := by
  rw [Formatters.semiJoin, Writers.semiJoin]
  refine .asking ?_
  split
  · next hd =>
    rw [Table.absorbed_join (.inr hd)]
    exact h.joinOn s j j.type j.condition
  · next hd =>
    split
    · rw [Table.absorbed_semiJoin hj hd]
      exact (Formatting.yields_absorb j.toExists).append (h.table s j.left)
    · exact (Formatting.renders_refuse _).yields_of_failed rfl _

lemma apply (j : Join) :
    (m.apply j).Yields s (w.apply s j)
      (j.left.absorbed s.dialect ++ j.right.absorbed s.dialect) () := by
  -- a side is collected alike with and without its `LATERAL`
  have hlateral (words : String) := h.sides s j.left words j.right.withoutLateral
  rw [Table.absorbed_withoutLateral] at hlateral
  rw [Formatters.apply, Writers.apply]
  refine .asking ?_
  split
  · exact h.sides s j.left j.type.keyword j.right
  · split
    · exact (Formatting.renders_refuse _).yields_of_failed rfl _
    · split
      · exact ((hlateral _).append_renders (Formatting.renders_text _)).append_renders
          (h.condition s .always)
      · exact hlateral _

lemma naturalJoin (j : Join) :
    (m.naturalJoin j).Yields s (w.naturalJoin s j)
      (j.left.absorbed s.dialect ++ j.right.absorbed s.dialect) () := by
  rw [Formatters.naturalJoin, Writers.naturalJoin]
  refine .asking ?_
  split
  · exact yields_ifOuterJoin (h.sides s j.left j.type.keyword j.right)
  · exact h.joinOn s j j.type.withoutNatural j.naturalCondition

lemma usingJoin (j : Join) :
    (m.usingJoin j).Yields s (w.usingJoin s j)
      (j.left.absorbed s.dialect ++ j.right.absorbed s.dialect) () := by
  have hwords (t : String) := Formatting.renders_text (s := s) t
  rw [Formatters.usingJoin, Writers.usingJoin]
  refine .asking ?_
  split
  · exact yields_ifOuterJoin ((((h.sides s _ _ _).append_renders (hwords _)).append_renders
      (Formatting.renders_lastParts _)).append_renders (hwords _))
  · exact h.joinOn s j j.type j.usingCondition

lemma join (j : Join) :
    (m.join j).Yields s (w.join s j) ((Table.join j).absorbed s.dialect) () := by
  rw [Formatters.join, Writers.join]
  by_cases hsemi : j.type.isSemiOrAnti = true
  · rw [if_pos hsemi, if_pos hsemi]
    exact h.semiJoin s hsemi
  · rw [if_neg hsemi, if_neg hsemi, Table.absorbed_join (.inl (Bool.eq_false_iff.mpr hsemi))]
    split
    · exact h.apply s j
    · split
      · exact h.naturalJoin s j
      · split
        · exact h.sides s j.left j.type.keyword j.right
        · split
          · exact h.usingJoin s j
          · exact h.joinOn s j j.type (j.on?.getD .always)

/-- A table is rendered as it is drafted, and leaves to a condition what it absorbs. -/
lemma formatTable (t : Table) :
    (m.formatTable t).Yields s (w.draftTable s t) (t.absorbed s.dialect) () := by
  cases t with
  | named t => exact renders_namedTable t
  | derived q called => exact h.derived s q called
  | join j => exact h.join s j
  | values rows called => exact h.valuesTable s rows called
  | unnest elements called ordinality => exact h.unnest s elements called ordinality
  | rowsFrom functions called => exact h.rowsFrom s functions called
  | lateral t => exact h.lateral s t
  | dual => exact renders_dual

end Follows

end Formatters

end Polysql

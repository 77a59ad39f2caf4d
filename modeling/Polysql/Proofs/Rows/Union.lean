import Mathlib.Data.List.TakeDrop
import Polysql.Proofs.Place.Descent
import Polysql.Proofs.Place.Subquery
/-!
Tables of rows that an engine cannot write. In their place stands a query in parentheses: one
`SELECT` per row, all of them joined by `UNION ALL`. The first one pairs the values of its row with
the names of the columns, so that it loses the values that have no name. So the query has all values
of all rows exactly if the alias does not name some of the columns only
(`Writers.union_complete_iff`). The rows of an unnested list always have names for all their values.
-/

namespace Polysql

open Writers (ofRank)

/-! ### Operands -/

/-- One of the queries that rows are written as: it selects some values, without a table. -/
structure Operand where
  /-- What is selected. -/
  fields : List SelectField
  /-- It yields a row, and is not filtered out by a condition that is never met. -/
  yields : Bool := true

namespace Operand

/-- The values of the row. -/
def row (o : Operand) : Row :=
  o.fields.map SelectField.expr

/-- The condition of an operand that yields no row. -/
def filter? (o : Operand) : Option Condition :=
  if o.yields then none else some (.equals (.number 1) (.number 0))

/-- The operand as a query. -/
def select (o : Operand) : Select :=
  { fields := o.fields, tables := [.dual], filter? := o.filter? }

/-- The text of an operand: what it selects, from the table of one row where there has to be one. -/
def draft (s : Scope) (o : Operand) : Draft :=
  "SELECT " ++ ofRank.selectFields s o.fields ++
    Draft.onlyIf (s.dialect.needsDual (!o.yields)) (s.clause "FROM " ++ s.family.dual) ++
    ofRank.whereClause s o.filter?

/-- The operand of a row. -/
def ofRow (r : Row) : Operand where
  fields := r.map fun e => ⟨e, none⟩

/-- The operand of a row that names the columns. What has no name is left out. -/
def ofNamedRow (r : Row) (columns : List Name) : Operand where
  fields := (r.zip columns).map fun (e, c) => ⟨e, some c⟩

/-- The operand that names the columns and yields no row. -/
def header (columns : List Name) : Operand where
  fields := columns.map fun c => ⟨.literal .null, some c⟩
  yields := false

/-- The operands of several rows. -/
def ofRows (rows : List Row) (columns : List Name) : List Operand :=
  match rows with
  | [] => [header columns]
  | r :: rs => ofNamedRow r columns :: rs.map ofRow

end Operand

lemma Select.ofRow_eq_operand (r : Row) : ofRow r = (Operand.ofRow r).select := by
  rw [ofRow_eq]
  rfl

lemma Select.ofNamedRow_eq_operand (r : Row) (columns : List Name) :
    ofNamedRow r columns = (Operand.ofNamedRow r columns).select := by
  rw [ofNamedRow_eq]
  rfl

lemma Select.withoutRows_eq_operand (columns : List Name) :
    withoutRows columns = (Operand.header columns).select := by
  rw [withoutRows_eq]
  rfl

/-! ### The text of the operands -/

/-- The text of a table that is replaced by operands: the first one names the columns. -/
def Draft.unionTable (s : Scope) (first : Operand) (others : List Draft) (name : Name) : Draft :=
  "(" ++ first.draft s.inQuery ++
    Draft.concat (others.map fun d => s.inQuery.clause "UNION ALL " ++ d) ++ ")" ++
    Draft.tableAlias s name []

namespace Writers

variable (s : Scope)

/-- An operand with further queries behind it. -/
lemma body_operand_setOps (o : Operand) (setOps : List SetOperation) (first : Bool) :
    ofRank.body s { fields := o.fields, tables := [.dual], filter? := o.filter?, setOps } first =
      o.draft s := by
  have hfilter : o.filter?.isSome = !o.yields := by
    rw [Operand.filter?]
    cases o.yields <;> rfl
  have hcondition : rowCondition s.dialect
      { fields := o.fields, tables := [.dual], filter? := o.filter? } = o.filter? := rfl
  have hfrom : ofRank.fromClause s [.dual] (!o.yields) =
      Draft.onlyIf (s.dialect.needsDual (!o.yields)) (s.clause "FROM " ++ s.family.dual) := rfl
  rw [body_plain, hcondition, hfilter, hfrom, Operand.draft]

lemma body_operand (o : Operand) (first : Bool) : ofRank.body s o.select first = o.draft s := by
  rw [Operand.select, body_operand_setOps]

/-- A query that follows others: its columns have the names of the first one. -/
lemma setOperation_union {q : Select} (hq : q.isCompound = false) :
    ofRank.setOperation s ⟨.union, true, q⟩ =
      s.clause "UNION ALL " ++ ofRank.body s.withoutFieldNames q false := by
  have hwords : setWords s ⟨.union, true, q⟩ = "UNION ALL " := rfl
  rw [setOperation, if_neg (fun h => h.1 rfl), if_neg (fun h => h.1 rfl), hq, hwords]
  rfl

/-- An operand and further queries. -/
lemma select_unionAll (first : Operand) {others : List Select}
    (hothers : ∀ q ∈ others, q.isCompound = false) :
    ofRank.select s (first.select.unionAll others) =
      first.draft s ++ Draft.concat
        (others.map fun q => s.clause "UNION ALL " ++ ofRank.body s.withoutFieldNames q false) := by
  have hrest : (others.map fun q => SetOperation.mk .union true q).map (ofRank.setOperation s) =
      others.map fun q => s.clause "UNION ALL " ++ ofRank.body s.withoutFieldNames q false := by
    rw [List.map_map]
    exact List.map_congr_left fun q hq => setOperation_union s (hothers q hq)
  rw [select_ofRank, Operand.select, Select.unionAll_eq, draftSelect_setOps, List.nil_append,
    hrest, body_operand_setOps]

/-- An operand and further queries, in the place of a table. -/
lemma aliasedQuery_unionAll (first : Operand) {others : List Select}
    (hothers : ∀ q ∈ others, q.isCompound = false) (name : Name) :
    ofRank.aliasedQuery s (first.select.unionAll others) name =
      Draft.unionTable s first
        (others.map fun q => ofRank.body s.inQuery.withoutFieldNames q false) name := by
  rw [aliasedQuery, subquery, select_unionAll s.inQuery first hothers, Draft.unionTable,
    List.map_map]
  simp only [Draft.append_assoc]
  rfl

/-- The text of a table of rows that are written as operands. -/
lemma aliasedQuery_ofRows (rows : List Row) (columns : List Name) (name : Name) :
    ∃ first rest, Operand.ofRows rows columns = first :: rest ∧
      ofRank.aliasedQuery s (.ofRows rows columns) name =
        Draft.unionTable s first (rest.map fun o => o.draft s.inQuery.withoutFieldNames) name := by
  cases rows with
  | nil =>
    refine ⟨.header columns, [], rfl, ?_⟩
    -- without rows there is one query, which names the columns and yields nothing
    rw [Select.ofRows, Select.withoutRows_eq_operand]
    have hnone : ∀ q ∈ ([] : List Select), q.isCompound = false := fun q hq =>
      absurd hq List.not_mem_nil
    have halone := aliasedQuery_unionAll s (.header columns) hnone name
    rw [Select.unionAll, List.foldl_nil] at halone
    rw [halone, List.map_nil, List.map_nil]
  | cons r rs =>
    refine ⟨.ofNamedRow r columns, rs.map .ofRow, rfl, ?_⟩
    have hplain : ∀ q ∈ rs.map Select.ofRow, q.isCompound = false := by
      refine List.forall_mem_map.mpr fun r _ => ?_
      rw [Select.ofRow_eq]
      rfl
    have hbody (r : Row) : ofRank.body s.inQuery.withoutFieldNames (.ofRow r) false =
        (Operand.ofRow r).draft s.inQuery.withoutFieldNames := by
      rw [Select.ofRow_eq_operand, body_operand]
    rw [Select.ofRows, Select.ofNamedRow_eq_operand, aliasedQuery_unionAll s _ hplain,
      List.map_map, List.map_map]
    simp only [Function.comp_def, hbody]

end Writers

/-! ### Complete operands -/

/-- Pairs stop with the shorter list. -/
lemma map_fst_zip_take {α β : Type} :
    ∀ (as : List α) (bs : List β), (as.zip bs).map Prod.fst = as.take bs.length
  | [], _ => by rw [List.zip_nil_left, List.take_nil, List.map_nil]
  | _ :: _, [] => rfl
  | a :: as, b :: bs => by
    rw [List.zip_cons_cons, List.map_cons, map_fst_zip_take as bs, List.length_cons,
      List.take_succ_cons]

/-- Operands yield all values of some rows, in order, and agree in the number of their columns. -/
structure Operand.Complete (os : List Operand) (rows : List Row) : Prop where
  rows_eq : (os.filter Operand.yields).map Operand.row = rows
  width_eq : ∀ o ∈ os, ∀ o' ∈ os, o.fields.length = o'.fields.length

namespace Operand

@[simp] lemma row_ofRow (r : Row) : (ofRow r).row = r := by
  rw [row, ofRow, List.map_map]
  exact List.map_id r

/-- The values that have names. -/
@[simp] lemma row_ofNamedRow (r : Row) (columns : List Name) :
    (ofNamedRow r columns).row = r.take columns.length := by
  rw [row, ofNamedRow, List.map_map]
  exact map_fst_zip_take r columns

lemma length_fields (o : Operand) : o.fields.length = o.row.length := by
  rw [row, List.length_map]

lemma length_ofRows {rows : List Row} (hne : rows ≠ []) (columns : List Name) :
    (ofRows rows columns).length = rows.length := by
  cases rows with
  | nil => exact absurd rfl hne
  | cons r rs => simp [ofRows]

/-- The rows that the operands of some rows yield: of the first one, the values that have names. -/
lemma rows_ofRows (r : Row) (rs : List Row) (columns : List Name) :
    ((ofRows (r :: rs) columns).filter yields).map row = r.take columns.length :: rs := by
  have hall : ∀ o ∈ ofRows (r :: rs) columns, o.yields = true := by
    refine List.forall_mem_cons.mpr ⟨rfl, List.forall_mem_map.mpr fun r _ => rfl⟩
  have hrest : (rs.map ofRow).map row = rs := by
    rw [List.map_map]
    exact List.map_id'' row_ofRow rs
  rw [List.filter_eq_self.mpr hall, ofRows, List.map_cons, row_ofNamedRow, hrest]

/-- Rows of one width are complete exactly if all values of the first one have names. -/
lemma complete_ofRows_iff {rows : List Row} {width : Nat} (hrows : ∀ r ∈ rows, r.length = width)
    (columns : List Name) :
    Complete (ofRows rows columns) rows ↔ rows = [] ∨ width ≤ columns.length := by
  cases rows with
  | nil =>
    refine iff_of_true ⟨rfl, fun o ho o' ho' => ?_⟩ (.inl rfl)
    rw [List.mem_singleton.mp ho, List.mem_singleton.mp ho']
  | cons r rs =>
    obtain ⟨hr, hrs⟩ := List.forall_mem_cons.mp hrows
    -- only the first row is paired with the columns, so it alone can lose values
    have hfirst : r.take columns.length = r ↔ width ≤ columns.length := by
      rw [List.take_eq_self_iff, hr]
    constructor
    · intro h
      have hrows := h.rows_eq
      rw [rows_ofRows] at hrows
      exact .inr (hfirst.mp (List.head_eq_of_cons_eq hrows))
    · intro h
      have hwidth := h.resolve_left (List.cons_ne_nil r rs)
      have heq : ((ofRows (r :: rs) columns).filter yields).map row = r :: rs := by
        rw [rows_ofRows, hfirst.mpr hwidth]
      have hlength : ∀ o ∈ ofRows (r :: rs) columns, o.fields.length = width := by
        refine List.forall_mem_cons.mpr ⟨?_, List.forall_mem_map.mpr fun r' hr' => ?_⟩
        · rw [length_fields, row_ofNamedRow, hfirst.mpr hwidth, hr]
        · rw [length_fields, row_ofRow, hrs r' hr']
      exact ⟨heq, fun o ho o' ho' => (hlength o ho).trans (hlength o' ho').symm⟩

/-- Every operand of rows with values selects something. -/
lemma fields_ne_nil {rows : List Row} {columns : List Name} (hrows : ∀ r ∈ rows, r ≠ [])
    (hcolumns : columns ≠ []) : ∀ o ∈ ofRows rows columns, o.fields ≠ [] := by
  cases rows with
  | nil =>
    refine List.forall_mem_singleton.mpr ?_
    rwa [header, Ne, List.map_eq_nil_iff]
  | cons r rs =>
    obtain ⟨hr, hrs⟩ := List.forall_mem_cons.mp hrows
    refine List.forall_mem_cons.mpr ⟨?_, List.forall_mem_map.mpr fun r' hr' => ?_⟩
    · rw [ofNamedRow, Ne, List.map_eq_nil_iff, List.zip_eq_nil_iff]
      exact not_or.mpr ⟨hr, hcolumns⟩
    · rw [ofRow, Ne, List.map_eq_nil_iff]
      exact hrs r' hr'

end Operand

/-! ### Tables that are replaced -/

lemma length_numberedColumns (n : Nat) : (numberedColumns n).length = n := by
  rw [numberedColumns, columnNames, List.length_map, List.length_map, List.length_range]

/-- Rows have names for all their values unless the alias names some of the columns only. -/
lemma TableAlias.le_length_valuesColumns_iff {a : TableAlias} {rows : List Row} {width : Nat}
    (hrows : ∀ r ∈ rows, r.length = width) :
    rows = [] ∨ width ≤ (a.valuesColumns rows).length ↔
      rows = [] ∨ a.columns = [] ∨ width ≤ a.columns.length := by
  cases rows with
  | nil => exact iff_of_true (.inl rfl) (.inl rfl)
  | cons r rs =>
    have hr : r.length = width := hrows r List.mem_cons_self
    refine or_congr_right ?_
    rw [valuesColumns]
    cases hcolumns : a.columns with
    | nil => simp [length_numberedColumns, hr]
    | cons c cs => simp

lemma TableAlias.valuesColumns_ne_nil {a : TableAlias} {rows : List Row}
    (hrows : ∀ r ∈ rows, r ≠ []) (hne : rows ≠ []) : a.valuesColumns rows ≠ [] := by
  obtain ⟨r, rs, rfl⟩ := List.exists_cons_of_ne_nil hne
  have hr : r.length ≠ 0 := fun h => hrows r List.mem_cons_self (List.length_eq_zero_iff.mp h)
  rw [valuesColumns]
  split
  next =>
    intro hnil
    have hlength := length_numberedColumns r.length
    rw [show numberedColumns r.length = [] from hnil] at hlength
    exact hr hlength.symm
  next hcolumns =>
    rwa [List.isEmpty_iff] at hcolumns

/-- The number of values in a row of an unnested list. -/
def unnestWidth (ordinality : Bool) : Nat :=
  if ordinality then 2 else 1

/-- An unnested list has names for all values of its rows. -/
lemma TableAlias.unnestWidth_le (a : TableAlias) (ordinality : Bool) :
    unnestWidth ordinality ≤ (a.unnestColumns ordinality).length := by
  have hgiven : 1 ≤ (if a.columns.isEmpty then [Name.ofText "value"] else a.columns).length := by
    cases a.columns <;> simp
  dsimp only [unnestColumns, unnestWidth]
  generalize (if a.columns.isEmpty then [Name.ofText "value"] else a.columns) = given at hgiven ⊢
  cases ordinality with
  | false => exact hgiven
  | true =>
    by_cases hone : given.length < 2
    · simp [hone, hgiven]
    · simp only [hone, decide_false, Bool.and_false]
      exact Nat.le_of_not_lt hone

lemma length_of_mem_unnestRows {elements : List Expr} {ordinality : Bool} :
    ∀ r ∈ unnestRows elements ordinality, r.length = unnestWidth ordinality := by
  intro r hr
  obtain ⟨i, hi, rfl⟩ := List.mem_mapIdx.mp hr
  rw [unnestWidth]
  split <;> rfl

namespace Writers

variable (s : Scope)

lemma table_values {rows : List Row} {called : TableAlias}
    (hs : rows = [] ∨ s.has Feature.valuesTable = false ∧ s.has Feature.valuesOfRows = false) :
    ofRank.table s (.values rows called) =
      ofRank.aliasedQuery s (.ofRows rows (called.valuesColumns rows)) called.name := by
  rw [table_ofRank]
  change ofRank.valuesTable s rows called = _
  rw [valuesTable]
  obtain rfl | ⟨htable, hrows⟩ := hs
  · rfl
  · rw [htable, hrows]
    split <;> rfl

lemma table_unnest {elements : List Expr} {called : TableAlias} {ordinality : Bool}
    (hs : elements = [] ∨ s.has Feature.unnest = false) :
    ofRank.table s (.unnest elements called ordinality) =
      ofRank.aliasedQuery s
        (.ofRows (unnestRows elements ordinality) (called.unnestColumns ordinality))
        called.name := by
  rw [table_ofRank]
  change ofRank.unnest s elements called ordinality = _
  rw [unnest, if_pos]
  obtain rfl | hunnest := hs
  · rfl
  · rw [hunnest, Bool.not_false, Bool.or_true]

/-- **Rows that are written as queries.** On an engine without tables of written out rows, a table
of rows of one width becomes a query with an operand for each row, which selects its values; with
one that yields nothing if there are no rows. The operands have all values of all rows, and the same
number of columns, exactly if the alias names no column or all of them. A list that an engine cannot
unnest becomes such a query as well, and that one is always complete: each operand selects an
element, and its number from 1 on if asked for. -/
theorem union_complete_iff :
    (∀ (rows : List Row) (called : TableAlias) (width : Nat),
      (∀ r ∈ rows, r.length = width) → 1 ≤ width →
      s.has Feature.valuesTable = false → s.has Feature.valuesOfRows = false →
        ∃ first rest, ofRank.table s (.values rows called) =
            Draft.unionTable s first (rest.map fun o => o.draft s.inQuery.withoutFieldNames)
              called.name ∧
          (rows ≠ [] → (first :: rest).length = rows.length ∧
            ∀ o ∈ first :: rest, o.fields ≠ []) ∧
          (Operand.Complete (first :: rest) rows ↔
            rows = [] ∨ called.columns = [] ∨ width ≤ called.columns.length)) ∧
    ∀ (elements : List Expr) (called : TableAlias) (ordinality : Bool), elements ≠ [] →
      s.has Feature.unnest = false →
        ∃ first rest, ofRank.table s (.unnest elements called ordinality) =
            Draft.unionTable s first (rest.map fun o => o.draft s.inQuery.withoutFieldNames)
              called.name ∧
          (first :: rest).length = elements.length ∧
          Operand.Complete (first :: rest) (elements.mapIdx fun i e =>
            if ordinality then [e, .literal (.int64 (Int64.ofNat (i + 1)))] else [e]) := by
  constructor
  -- for `VALUES` the columns may be too few, for an array they are as many as it takes
  · intro rows called width hrows hwidth htable hvalues
    obtain ⟨first, rest, hoperands, hdraft⟩ :=
      aliasedQuery_ofRows s rows (called.valuesColumns rows) called.name
    refine ⟨first, rest, (table_values s (.inr ⟨htable, hvalues⟩)).trans hdraft, fun hne => ?_, ?_⟩
    · have hvalued : ∀ r ∈ rows, r ≠ [] := fun r hr hnil => by
        have hlength := hrows r hr
        rw [hnil, List.length_nil] at hlength
        omega
      rw [← hoperands]
      exact ⟨Operand.length_ofRows hne _,
        Operand.fields_ne_nil hvalued (TableAlias.valuesColumns_ne_nil hvalued hne)⟩
    · rw [← hoperands, Operand.complete_ofRows_iff hrows,
        TableAlias.le_length_valuesColumns_iff hrows]
  · intro elements called ordinality hne hunnest
    obtain ⟨first, rest, hoperands, hdraft⟩ := aliasedQuery_ofRows s
      (unnestRows elements ordinality) (called.unnestColumns ordinality) called.name
    refine ⟨first, rest, (table_unnest s (.inr hunnest)).trans hdraft, ?_, ?_⟩
    · have hrows : unnestRows elements ordinality ≠ [] := by
        rwa [unnestRows, Ne, List.mapIdx_eq_nil_iff]
      rw [← hoperands, Operand.length_ofRows hrows, unnestRows, List.length_mapIdx]
    · rw [← hoperands]
      exact (Operand.complete_ofRows_iff length_of_mem_unnestRows _).mpr
        (.inr (called.unnestWidth_le ordinality))

/-- Two rows whose columns have both names, and a list whose only column has one. -/
theorem union_complete_iff_named :
    let s : Scope := { target := ⟨.sqlite, none, .ignore, .ignore⟩ }
    let rows : List Row := [[.number 1, .number 2], [.number 3, .number 4]]
    let called : TableAlias := ⟨.ofText "v", [.ofText "a", .ofText "b"]⟩
    (∃ first rest, ofRank.table s (.values rows called) =
        Draft.unionTable s first (rest.map fun o => o.draft s.inQuery.withoutFieldNames)
          called.name ∧
      Operand.Complete (first :: rest) rows) ∧
    ∃ first rest, ofRank.table s (.unnest [.number 5, .number 6] (.ofName (.ofText "e")) false) =
        Draft.unionTable s first (rest.map fun o => o.draft s.inQuery.withoutFieldNames)
          (.ofText "e") ∧
      Operand.Complete (first :: rest) [[.number 5], [.number 6]] := by
  intro s rows called
  obtain ⟨first, rest, hdraft, -, hiff⟩ :=
    (union_complete_iff s).1 rows called 2 (by simp [rows]) (by decide) rfl rfl
  obtain ⟨first', rest', hdraft', -, hcomplete⟩ :=
    (union_complete_iff s).2 [.number 5, .number 6] (.ofName (.ofText "e")) false (by simp) rfl
  exact ⟨⟨first, rest, hdraft, hiff.mpr (.inr (.inr (Nat.le_refl 2)))⟩,
    first', rest', hdraft', hcomplete⟩

/-- With a name for the first column only, the first row loses its second value. -/
theorem union_incomplete :
    let s : Scope := { target := ⟨.sqlite, none, .ignore, .ignore⟩ }
    let rows : List Row := [[.number 1, .number 2], [.number 3, .number 4]]
    let called : TableAlias := ⟨.ofText "v", [.ofText "a"]⟩
    (∃ first rest, ofRank.table s (.values rows called) =
        Draft.unionTable s first (rest.map fun o => o.draft s.inQuery.withoutFieldNames)
          called.name ∧
      (first :: rest).map Operand.row = [[.number 1], [.number 3, .number 4]]) ∧
    (Renderer.render { dialect := .sqlite } (.select { tables := [.values rows called] })).map
        Rendered.sql =
      .ok "SELECT * FROM (SELECT 1 AS \"a\" UNION ALL SELECT 3, 4) AS \"v\"" := by
  intro s rows called
  constructor
  · obtain ⟨first, rest, hoperands, hdraft⟩ :=
      aliasedQuery_ofRows s rows (called.valuesColumns rows) called.name
    refine ⟨first, rest, (table_values s (.inr ⟨rfl, rfl⟩)).trans hdraft, ?_⟩
    rw [← hoperands]
    rfl
  · decide +kernel

end Writers

end Polysql

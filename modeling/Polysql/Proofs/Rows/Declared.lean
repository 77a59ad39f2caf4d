import Mathlib.Data.List.Zip
import Polysql.Proofs.Name
import Polysql.Proofs.Rows.Union
/-!
The columns that a table is known to have, beside those that its text declares. A table under an
alias is written with a list of names behind the alias, or as queries the first of which names the
columns. What is known of it are the names of the alias, and `value` and `ordinality` for an
unnested list. So the two are the same exactly if rows are given names at all, if no name is given
for a value that the first query does not have, and if all names are unqualified
(`Table.fields_eq_declared_iff`).
-/

namespace Polysql

open Writers (ofRank table_ofRank)

/-! ### Columns in a text -/

/-- How the text of a table names its columns. -/
inductive TableText where
  /-- Something with an alias and a list of names. -/
  | listed (content : Draft) (columns : List Name)
  /-- Queries, the first of which names the columns. -/
  | union (first : Operand) (others : List Draft)

namespace TableText

/-- The text under an alias. -/
def draft (s : Scope) (name : Name) : TableText → Draft
  | listed content columns => content ++ Draft.tableAlias s name columns
  | union first others => Draft.unionTable s first others name

/-- The names of the columns, unless the first query selects everything. -/
def columns? : TableText → Option (List Name)
  | listed _ columns => some columns
  | union first _ =>
    if first.fields.isEmpty then none else some (first.fields.filterMap SelectField.alias?)

/-- The columns that the text declares, under the alias: of each name, only the last part is
written. -/
def declared? (name : Name) (text : TableText) : Option (List Name) :=
  text.columns?.map fun columns => columns.map fun c => name ++ c.unqualified

end TableText

/-! ### Tables under an alias -/

/-- A table whose columns have their names from an alias. -/
inductive Table.NamedBy : Table → TableAlias → Prop where
  | values {rows : List Row} {a : TableAlias} : rows ≠ [] → NamedBy (.values rows a) a
  | unnest {elements : List Expr} {ordinality : Bool} {a : TableAlias} :
    NamedBy (.unnest elements a ordinality) a
  | derived {q : Select} {a : TableAlias} : a.columns ≠ [] → NamedBy (.derived q a) a
  | rowsFrom {functions : List Call} {a : TableAlias} :
    a.columns ≠ [] → NamedBy (.rowsFrom functions a) a

/-- The engine has tables of written out rows. -/
def Scope.writesRows (s : Scope) : Bool :=
  s.has Feature.valuesTable || s.has Feature.valuesOfRows

/-- The names that are given fit the columns that are written: rows have names unless there is
nothing to name, and where the first query names the columns, no name is left over. -/
def Table.NamesFit (s : Scope) : Table → Prop
  | .values rows a =>
    if s.writesRows then a.columns = [] → rows.head?.elim 0 List.length = 0
    else a.columns ≠ [] ∧ a.columns.length ≤ rows.head?.elim 0 List.length
  | .unnest elements a ordinality =>
    s.has Feature.unnest = true ∨ elements = [] ∨ a.columns.length ≤ unnestWidth ordinality
  | _ => True

/-! ### Names that are kept -/

/-- Names stay what they are if none is left over and none has a qualifier. -/
lemma map_take_unqualified_iff (name : Name) (columns : List Name) (n : Nat) :
    (columns.take n).map (fun c => name ++ c.unqualified) = columns.map (name ++ ·) ↔
      columns.length ≤ n ∧ ∀ c ∈ columns, c.unqualified = c := by
  have hall (hlength : columns.length ≤ n) :
      (columns.take n).map (fun c => name ++ c.unqualified) = columns.map (name ++ ·) ↔
        ∀ c ∈ columns, c.unqualified = c := by
    rw [List.take_of_length_le hlength, List.map_inj_left]
    exact forall₂_congr fun c _ => Name.append_right_inj
  constructor
  · intro h
    have hlength : columns.length ≤ n := by
      have := congrArg List.length h
      rw [List.length_map, List.length_map, List.length_take] at this
      omega
    exact ⟨hlength, (hall hlength).mp h⟩
  · rintro ⟨hlength, hplain⟩
    exact (hall hlength).mpr hplain

namespace TableText

/-- A list of names declares the columns under these names if they are unqualified. -/
lemma declared?_listed_iff (content : Draft) (name : Name) (columns : List Name) :
    (listed content columns).declared? name = some (columns.map (name ++ ·)) ↔
      ∀ c ∈ columns, c.unqualified = c := by
  have h := map_take_unqualified_iff name columns columns.length
  rw [List.take_length] at h
  simpa [declared?, columns?] using h

/-- The first query declares the columns that it names, as long as it selects something. -/
lemma declared?_union {first : Operand} (hne : first.fields ≠ []) (others : List Draft)
    (name : Name) {columns : List Name}
    (hcolumns : first.fields.filterMap SelectField.alias? = columns) :
    (union first others).declared? name = some (columns.map fun c => name ++ c.unqualified) := by
  rw [declared?, columns?, if_neg (by rwa [List.isEmpty_iff]), hcolumns, Option.map_some]

lemma declared?_ofNamedRow_nil (columns : List Name) (others : List Draft) (name : Name) :
    (union (.ofNamedRow [] columns) others).declared? name = none :=
  rfl

/-- A row declares the columns that it has values for. -/
lemma declared?_ofNamedRow {r : Row} (hr : r ≠ []) (others : List Draft) (name : Name)
    {columns : List Name} (hne : columns ≠ []) :
    (union (.ofNamedRow r columns) others).declared? name =
      some ((columns.take r.length).map fun c => name ++ c.unqualified) := by
  refine declared?_union ?_ others name ?_
  · rw [Operand.ofNamedRow, Ne, List.map_eq_nil_iff, List.zip_eq_nil_iff]
    exact not_or.mpr ⟨hr, hne⟩
  · rw [← map_fst_zip_take, ← List.zip_swap, List.map_map, Operand.ofNamedRow, List.filterMap_map]
    exact congrFun (List.filterMap_eq_map (f := Prod.snd)) (r.zip columns)

/-- These are all columns if there are no more names than values. -/
lemma declared?_ofNamedRow_iff (r : Row) (others : List Draft) (name : Name) {columns : List Name}
    (hne : columns ≠ []) :
    (union (.ofNamedRow r columns) others).declared? name = some (columns.map (name ++ ·)) ↔
      columns.length ≤ r.length ∧ ∀ c ∈ columns, c.unqualified = c := by
  by_cases hr : r = []
  · subst hr
    rw [declared?_ofNamedRow_nil]
    exact iff_of_false nofun fun h => hne (List.length_eq_zero_iff.mp (Nat.le_zero.mp h.1))
  · rw [declared?_ofNamedRow hr others name hne, Option.some.injEq, map_take_unqualified_iff]

/-- A query that yields nothing declares all columns. -/
lemma declared?_header_iff (others : List Draft) (name : Name) {columns : List Name}
    (hne : columns ≠ []) :
    (union (.header columns) others).declared? name = some (columns.map (name ++ ·)) ↔
      ∀ c ∈ columns, c.unqualified = c := by
  have hfields : (Operand.header columns).fields ≠ [] := by
    rwa [Operand.header, Ne, List.map_eq_nil_iff]
  have hnames : (Operand.header columns).fields.filterMap SelectField.alias? = columns := by
    rw [Operand.header, List.filterMap_map]
    exact List.filterMap_some
  have h := map_take_unqualified_iff name columns columns.length
  rw [List.take_length] at h
  rw [declared?_union hfields others name hnames, Option.some.injEq, h]
  exact and_iff_right (Nat.le_refl _)

end TableText

/-! ### The names of an alias -/

lemma numberedColumns_eq_nil_iff {n : Nat} : numberedColumns n = [] ↔ n = 0 := by
  rw [← List.length_eq_zero_iff, length_numberedColumns]

namespace TableAlias

variable (a : TableAlias)

/-- The columns of an unnested list are those of the alias and, where these are too few, the usual
ones. -/
lemma unnestColumns_eq (ordinality : Bool) : ∃ usual : List Name,
    a.unnestColumns ordinality = a.columns ++ usual ∧ (∀ c ∈ usual, c.unqualified = c) ∧
      (usual = [] ∨ (a.columns ++ usual).length ≤ unnestWidth ordinality) := by
  have hplain (texts : List String) : ∀ c ∈ texts.map Name.ofText, c.unqualified = c :=
    List.forall_mem_map.mpr fun c _ => Name.unqualified_ofText c
  rw [unnestColumns]
  cases hcolumns : a.columns with
  | nil =>
    cases ordinality with
    | false => exact ⟨["value"].map .ofText, rfl, hplain _, .inr (Nat.le_refl 1)⟩
    | true => exact ⟨["value", "ordinality"].map .ofText, rfl, hplain _, .inr (Nat.le_refl 2)⟩
  | cons c cs =>
    cases ordinality with
    | false => exact ⟨[], (List.append_nil _).symm, nofun, .inl rfl⟩
    | true =>
      cases cs with
      | nil => exact ⟨["ordinality"].map .ofText, rfl, hplain _, .inr (Nat.le_refl 2)⟩
      | cons c' cs => exact ⟨[], by simp, nofun, .inl rfl⟩

lemma unnestColumns_ne_nil (ordinality : Bool) : a.unnestColumns ordinality ≠ [] := by
  intro h
  have hlength := a.unnestWidth_le ordinality
  rw [h, unnestWidth] at hlength
  cases ordinality <;> exact absurd hlength (by decide)

/-- The columns of an unnested list are unqualified if those of the alias are. -/
lemma unqualified_unnestColumns_iff (ordinality : Bool) :
    (∀ c ∈ a.unnestColumns ordinality, c.unqualified = c) ↔
      ∀ c ∈ a.columns, c.unqualified = c := by
  obtain ⟨usual, heq, hplain, -⟩ := a.unnestColumns_eq ordinality
  rw [heq, List.forall_mem_append]
  exact and_iff_left hplain

lemma length_unnestColumns_le_iff (ordinality : Bool) :
    (a.unnestColumns ordinality).length ≤ unnestWidth ordinality ↔
      a.columns.length ≤ unnestWidth ordinality := by
  obtain ⟨usual, heq, -, rfl | hlength⟩ := a.unnestColumns_eq ordinality
  · rw [heq, List.append_nil]
  · rw [heq]
    refine iff_of_true hlength (Nat.le_trans ?_ hlength)
    rw [List.length_append]
    exact Nat.le_add_right _ _

end TableAlias

/-! ### The text of a table -/

namespace Table

variable {s : Scope} {a : TableAlias}

lemma fields_values (rows : List Row) (a : TableAlias) :
    (values rows a).fields = a.columns.map (a.name ++ ·) :=
  rfl

lemma fields_unnest (elements : List Expr) (a : TableAlias) (ordinality : Bool) :
    (unnest elements a ordinality).fields = (a.unnestColumns ordinality).map (a.name ++ ·) :=
  rfl

lemma fields_rowsFrom (functions : List Call) (a : TableAlias) :
    (rowsFrom functions a).fields = a.columns.map (a.name ++ ·) :=
  rfl

lemma fields_derived (q : Select) (ha : a.columns ≠ []) :
    (derived q a).fields = a.columns.map (a.name ++ ·) := by
  rw [fields, if_neg (by rwa [List.isEmpty_iff])]
  rfl

/-- Rows that are written out declare the columns of the alias, or numbered ones. -/
lemma declared?_values_listed_iff (content : Draft) (rows : List Row) :
    (TableText.listed content (a.valuesColumns rows)).declared? a.name =
        some (values rows a).fields ↔
      (a.columns = [] → rows.head?.elim 0 List.length = 0) ∧
        ∀ c ∈ a.columns, c.unqualified = c := by
  by_cases ha : a.columns = []
  · have hcolumns : a.valuesColumns rows = numberedColumns (rows.head?.elim 0 List.length) := by
      rw [TableAlias.valuesColumns, ha]
      rfl
    rw [fields_values, hcolumns, ha, TableText.declared?, TableText.columns?, Option.map_some,
      Option.some.injEq, List.map_nil, List.map_eq_nil_iff, numberedColumns_eq_nil_iff]
    simp
  · have hcolumns : a.valuesColumns rows = a.columns := by
      rw [TableAlias.valuesColumns, if_neg (by rwa [List.isEmpty_iff])]
    rw [fields_values, hcolumns, TableText.declared?_listed_iff]
    exact (and_iff_right fun h => absurd h ha).symm

/-- Rows that are written as queries declare the names that have a value in the first row. -/
lemma declared?_values_union_iff (r : Row) (rs : List Row) (others : List Draft) :
    (TableText.union (.ofNamedRow r (a.valuesColumns (r :: rs))) others).declared? a.name =
        some (values (r :: rs) a).fields ↔
      (a.columns ≠ [] ∧ a.columns.length ≤ r.length) ∧ ∀ c ∈ a.columns, c.unqualified = c := by
  by_cases ha : a.columns = []
  · refine iff_of_false (fun h => ?_) fun h => h.1.1 ha
    have hcolumns : a.valuesColumns (r :: rs) = numberedColumns r.length := by
      rw [TableAlias.valuesColumns, ha]
      rfl
    rw [fields_values, hcolumns, ha, List.map_nil] at h
    by_cases hr : r = []
    · subst hr
      cases h
    · -- numbered columns of a row with values are declared, but not known
      have hnumbered : numberedColumns r.length ≠ [] := by
        rwa [Ne, numberedColumns_eq_nil_iff, List.length_eq_zero_iff]
      rw [TableText.declared?_ofNamedRow hr others a.name hnumbered, Option.some.injEq,
        List.map_eq_nil_iff, List.take_of_length_le (Nat.le_of_eq (length_numberedColumns _))] at h
      exact hnumbered h
  · have hcolumns : a.valuesColumns (r :: rs) = a.columns := by
      rw [TableAlias.valuesColumns, if_neg (by rwa [List.isEmpty_iff])]
    rw [fields_values, hcolumns, TableText.declared?_ofNamedRow_iff _ _ _ ha]
    exact and_congr_left' (and_iff_right ha).symm

/-- An unnested list declares its columns, however it is written, as long as no name of the alias
is left over in the first query. -/
lemma declared?_unnest_union_iff {elements : List Expr} {ordinality : Bool} {first : Operand}
    {rest : List Operand} (others : List Draft)
    (h : Operand.ofRows (unnestRows elements ordinality) (a.unnestColumns ordinality) =
      first :: rest) :
    (TableText.union first others).declared? a.name = some (unnest elements a ordinality).fields ↔
      (elements = [] ∨ a.columns.length ≤ unnestWidth ordinality) ∧
        ∀ c ∈ a.columns, c.unqualified = c := by
  have hne := a.unnestColumns_ne_nil ordinality
  rw [fields_unnest]
  cases hrows : unnestRows elements ordinality with
  | nil =>
    -- without elements there is only the query that names the columns
    have helements : elements = [] := by rwa [unnestRows, List.mapIdx_eq_nil_iff] at hrows
    rw [hrows, Operand.ofRows] at h
    obtain rfl := List.head_eq_of_cons_eq h
    rw [TableText.declared?_header_iff others a.name hne, a.unqualified_unnestColumns_iff]
    exact (and_iff_right (.inl helements)).symm
  | cons r rs =>
    have helements : elements ≠ [] := by
      rintro rfl
      cases hrows
    have hmem : r ∈ unnestRows elements ordinality := by
      rw [hrows]
      exact List.mem_cons_self
    have hr := length_of_mem_unnestRows r hmem
    rw [hrows, Operand.ofRows] at h
    obtain rfl := List.head_eq_of_cons_eq h
    rw [TableText.declared?_ofNamedRow_iff r others a.name hne, a.unqualified_unnestColumns_iff, hr,
      a.length_unnestColumns_le_iff]
    exact and_congr_left' (or_iff_right helements).symm

/-! ### The drafts -/

lemma exists_values_listed (hs : s.writesRows = true) {rows : List Row} (hne : rows ≠ []) :
    ∃ content, ofRank.table s (.values rows a) =
      content ++ Draft.tableAlias s a.name (a.valuesColumns rows) := by
  have hrows : rows.isEmpty = false := by rwa [List.isEmpty_eq_false_iff]
  rw [table_ofRank]
  change ∃ content, ofRank.valuesTable s rows a = _
  rw [Writers.valuesTable, hrows]
  cases htable : s.has Feature.valuesTable with
  | true => exact ⟨_, rfl⟩
  | false =>
    rw [Scope.writesRows, htable, Bool.false_or] at hs
    rw [hs]
    exact ⟨_, rfl⟩

lemma exists_unnest_listed (hs : s.has Feature.unnest = true) {elements : List Expr}
    (hne : elements ≠ []) (ordinality : Bool) :
    ∃ content, ofRank.table s (.unnest elements a ordinality) =
      content ++ Draft.tableAlias s a.name (a.unnestColumns ordinality) := by
  have helements : elements.isEmpty = false := by rwa [List.isEmpty_eq_false_iff]
  rw [table_ofRank]
  change ∃ content, ofRank.unnest s elements a ordinality = _
  rw [Writers.unnest, helements, hs]
  exact ⟨_, rfl⟩

lemma exists_derived (q : Select) (ha : a.columns ≠ []) :
    (∃ content, ofRank.table s (.derived q a) =
        content ++ Draft.tableAlias s a.name a.columns) ∨
      ∃ others, ofRank.table s (.derived q a) =
        Draft.unionTable s (.header a.columns) others a.name := by
  have hcolumns : a.columns.isEmpty = false := by rwa [List.isEmpty_eq_false_iff]
  rw [table_ofRank]
  change (∃ content, ofRank.derived s q a = _) ∨ ∃ others, ofRank.derived s q a = _
  rw [Writers.derived, hcolumns, Bool.false_or]
  cases s.has Feature.aliasColumns with
  | true => exact .inl ⟨_, rfl⟩
  | false =>
    rw [if_neg Bool.false_ne_true, Select.renamed, Select.withoutRows_eq_operand]
    exact .inr ⟨_, Writers.aliasedQuery_unionAll s _ (List.forall_mem_singleton.mpr rfl) a.name⟩

lemma exists_rowsFrom {functions : List Call}
    (hdrafted : (ofRank.table s (.rowsFrom functions a)).error? = none) :
    ∃ content, ofRank.table s (.rowsFrom functions a) =
      content ++ Draft.tableAlias s a.name a.columns := by
  rw [table_ofRank] at hdrafted ⊢
  change (ofRank.rowsFrom s functions a).error? = none at hdrafted
  change ∃ content, ofRank.rowsFrom s functions a = _
  rw [Writers.rowsFrom] at hdrafted ⊢
  split at hdrafted
  next hs =>
    rw [if_pos hs]
    exact ⟨_, rfl⟩
  next => cases hdrafted

/-- **Known and declared columns.** A table under an alias is written with a list of names or as
queries that name the columns, and what its text declares are the columns that it is known to have
if and only if the names fit what is written and none of them is qualified. -/
theorem fields_eq_declared_iff {t : Table} (h : t.NamedBy a)
    (hdrafted : (ofRank.table s t).error? = none) :
    ∃ text : TableText, ofRank.table s t = text.draft s a.name ∧
      (text.declared? a.name = some t.fields ↔
        t.NamesFit s ∧ ∀ c ∈ a.columns, c.unqualified = c) := by
  -- a list that the engine takes declares the columns as they are; of a union, the first row counts
  cases h with
  | @values rows _ hne =>
    cases hs : s.writesRows with
    | true =>
      obtain ⟨content, hcontent⟩ := exists_values_listed (a := a) hs hne
      refine ⟨.listed content (a.valuesColumns rows), hcontent, ?_⟩
      rw [declared?_values_listed_iff, NamesFit, if_pos hs]
    | false =>
      obtain ⟨htable, hvalues⟩ := Bool.or_eq_false_iff.mp hs
      obtain ⟨first, rest, hoperands, hdraft⟩ :=
        Writers.aliasedQuery_ofRows s rows (a.valuesColumns rows) a.name
      obtain ⟨r, rs, rfl⟩ := List.exists_cons_of_ne_nil hne
      refine ⟨.union first _, (Writers.table_values s (.inr ⟨htable, hvalues⟩)).trans hdraft, ?_⟩
      obtain rfl := List.head_eq_of_cons_eq hoperands
      rw [declared?_values_union_iff, NamesFit, hs]
      rfl
  | @unnest elements ordinality _ =>
    by_cases hs : s.has Feature.unnest = true ∧ elements ≠ []
    · obtain ⟨content, hcontent⟩ := exists_unnest_listed (a := a) hs.1 hs.2 ordinality
      refine ⟨.listed content (a.unnestColumns ordinality), hcontent, ?_⟩
      rw [fields_unnest, TableText.declared?_listed_iff, a.unqualified_unnestColumns_iff]
      exact (and_iff_right (.inl hs.1)).symm
    · have hqueries : elements = [] ∨ s.has Feature.unnest = false := by
        by_cases helements : elements = []
        · exact .inl helements
        · exact .inr (Bool.eq_false_iff.mpr fun hunnest => hs ⟨hunnest, helements⟩)
      obtain ⟨first, rest, hoperands, hdraft⟩ := Writers.aliasedQuery_ofRows s
        (unnestRows elements ordinality) (a.unnestColumns ordinality) a.name
      refine ⟨.union first _, (Writers.table_unnest s hqueries).trans hdraft, ?_⟩
      rw [declared?_unnest_union_iff _ hoperands, NamesFit]
      refine and_congr_left' ⟨.inr, fun h => h.elim (fun hunnest => ?_) id⟩
      exact hqueries.imp_right fun hnone => absurd hunnest (by rw [hnone]; exact Bool.false_ne_true)
  | @derived q _ ha =>
    rw [fields_derived q ha]
    obtain ⟨content, hcontent⟩ | ⟨others, hothers⟩ := exists_derived q ha
    · refine ⟨.listed content a.columns, hcontent, ?_⟩
      rw [TableText.declared?_listed_iff]
      exact (and_iff_right trivial).symm
    · refine ⟨.union (.header a.columns) others, hothers, ?_⟩
      rw [TableText.declared?_header_iff _ _ ha]
      exact (and_iff_right trivial).symm
  | @rowsFrom functions _ ha =>
    obtain ⟨content, hcontent⟩ := exists_rowsFrom hdrafted
    refine ⟨.listed content a.columns, hcontent, ?_⟩
    rw [fields_rowsFrom, TableText.declared?_listed_iff]
    exact (and_iff_right trivial).symm

/-- Two columns that are named are declared as they are known. -/
theorem fields_eq_declared_iff_named :
    let s : Scope := { target := ⟨.postgres, none, .ignore, .ignore⟩ }
    let t : Table := .values [[.number 1, .number 2]] ⟨.ofText "v", [.ofText "a", .ofText "b"]⟩
    (ofRank.table s t).error? = none ∧ ∃ text : TableText,
      ofRank.table s t = text.draft s (.ofText "v") ∧
        text.declared? (.ofText "v") = some [.ofTexts ["v", "a"], .ofTexts ["v", "b"]] := by
  intro s t
  have hdrafted : (ofRank.table s t).error? = none := rfl
  obtain ⟨text, htext, hiff⟩ := fields_eq_declared_iff (.values (List.cons_ne_nil _ _)) hdrafted
  exact ⟨hdrafted, text, htext, hiff.mpr ⟨nofun, by decide⟩⟩

/-- Two columns that are not named are declared under numbers, but nothing is known of them: a
natural join of two such tables has no condition. -/
theorem fields_ne_declared :
    let s : Scope := { target := ⟨.postgres, none, .ignore, .ignore⟩ }
    let t (name : String) : Table := .values [[.number 1, .number 2]] (.ofName (.ofText name))
    (∃ text : TableText, ofRank.table s (t "v") = text.draft s (.ofText "v") ∧
      text.declared? (.ofText "v") = some [.ofTexts ["v", "c1"], .ofTexts ["v", "c2"]]) ∧
    (t "v").fields = [] ∧
    Join.naturalCondition ⟨t "v", t "w", .natural, none, []⟩ = .always ∧
    (Renderer.render { dialect := .postgres } (.select { tables := [t "v"] })).map Rendered.sql =
      .ok "SELECT * FROM (VALUES (1, 2)) AS \"v\"(\"c1\", \"c2\")" := by
  intro s t
  refine ⟨?_, rfl, rfl, by decide +kernel⟩
  obtain ⟨content, hcontent⟩ := exists_values_listed (s := s) (a := .ofName (.ofText "v")) rfl
    (List.cons_ne_nil [Expr.number 1, .number 2] [])
  exact ⟨.listed content _, hcontent, rfl⟩

end Table

end Polysql

import Mathlib.Data.List.Basic
import Polysql.Render
/-!
Rows that are assigned from a query. Where an engine lacks such assignments, each column is assigned
a query of its own, which is the query of the row with one field instead of several. The queries
that are combined with it keep all of their fields. So every column gets the query that belongs to
it exactly if nothing is combined with the query, or if there is one column only
(`Assignment.expand_query_iff`).
-/

namespace Polysql

/-! ### Columns of queries -/

mutual

/-- A query, and every query that is combined with it at whatever depth, has a number of fields. -/
inductive Select.HasWidth (width : Nat) : Select → Prop
  | intro {q : Select} (hfields : q.fields.length = width) (hsetOps : AllHaveWidth width q.setOps) :
    Select.HasWidth width q

/-- The queries of some set operations have a number of fields. -/
inductive AllHaveWidth (width : Nat) : List SetOperation → Prop
  | nil : AllHaveWidth width []
  | cons {op : SetOp} {all : Bool} {q : Select} {ops : List SetOperation}
    (hq : Select.HasWidth width q) (hops : AllHaveWidth width ops) :
    AllHaveWidth width (⟨op, all, q⟩ :: ops)

end

mutual

/-- The second query is a column of the first one: its only field is the field of the first at this
place, under whatever name, and the same goes for every query that is combined with it. All else is
as in the first query. -/
inductive Select.IsColumn (i : Nat) : Select → Select → Prop
  | intro {q q' : Select} {f : SelectField} {name? : Option Name} (hf : q.fields[i]? = some f)
    (hfields : q'.fields = [⟨f.expr, name?⟩]) (hsetOps : AreColumns i q.setOps q'.setOps)
    (hrest : { q' with fields := q.fields, setOps := q.setOps } = q) :
    Select.IsColumn i q q'

/-- The set operations are the same on columns of the queries. -/
inductive AreColumns (i : Nat) : List SetOperation → List SetOperation → Prop
  | nil : AreColumns i [] []
  | cons {op : SetOp} {all : Bool} {q q' : Select} {ops ops' : List SetOperation}
    (hq : Select.IsColumn i q q') (hops : AreColumns i ops ops') :
    AreColumns i (⟨op, all, q⟩ :: ops) (⟨op, all, q'⟩ :: ops')

end

mutual

/-- A query with one field is its own column, except for the name of the field. -/
lemma Select.HasWidth.isColumn {q : Select} : q.HasWidth 1 → q.IsColumn 0 q
  | .intro hfields hsetOps => by
    obtain ⟨⟨e, name?⟩, hf⟩ := List.length_eq_one_iff.mp hfields
    exact .intro (by rw [hf]; rfl) hf hsetOps.areColumns (by cases q; rfl)

lemma AllHaveWidth.areColumns {ops : List SetOperation} : AllHaveWidth 1 ops → AreColumns 0 ops ops
  | .nil => .nil
  | .cons hq hops => .cons hq.isColumn hops.areColumns

end

/-- Set operations stay as they are on columns only if there are none, or if their queries have one
field. -/
lemma AllHaveWidth.eq_nil_or {width i : Nat} {ops : List SetOperation} (h : AllHaveWidth width ops)
    (hcolumns : AreColumns i ops ops) : ops = [] ∨ width = 1 := by
  cases h with
  | nil => exact .inl rfl
  | cons hq hops =>
    cases hcolumns with
    | cons hcolumn _ =>
      obtain ⟨hwidth, _⟩ := hq
      obtain ⟨_, hfields, _, _⟩ := hcolumn
      rw [hfields] at hwidth
      exact .inr hwidth.symm

namespace Assignment

/-! ### Assignments of columns -/

variable {columns : List Name} {q : Select}

/-- The query with one field instead of all. -/
def columnQuery (q : Select) (f : SelectField) : Select :=
  { q with fields := [⟨f.expr, none⟩] }

/-- What the columns of a row are assigned one by one. -/
def assigned (columns : List Name) (q : Select) : List (Name × Expr) :=
  (columns.zip q.fields).map fun (c, f) => (c, .subquery (columnQuery q f))

/-- A row that has a field for each column is assigned column by column. -/
lemma expand_query (h : q.fields.length = columns.length) :
    (row columns (.query q)).expand = .ok (assigned columns q) := by
  rw [expand, if_neg (not_not.mpr h)]
  rfl

lemma map_fst_assigned (h : q.fields.length = columns.length) :
    (assigned columns q).map Prod.fst = columns := by
  rw [assigned, List.map_map]
  exact List.map_fst_zip (Nat.le_of_eq h.symm)

/-- Each column is assigned the query with the field that belongs to it. -/
lemma getElem?_assigned {i : Nat} {c : Name} {e : Expr} :
    (assigned columns q)[i]? = some (c, e) ↔ ∃ f, columns[i]? = some c ∧ q.fields[i]? = some f ∧
      e = .subquery (columnQuery q f) := by
  rw [assigned, List.getElem?_map, Option.map_eq_some_iff]
  constructor
  · rintro ⟨⟨c, f⟩, hcf, heq⟩
    cases heq
    obtain ⟨hc, hf⟩ := List.getElem?_zip_eq_some.mp hcf
    exact ⟨f, hc, hf, rfl⟩
  · rintro ⟨f, hc, hf, rfl⟩
    exact ⟨(c, f), List.getElem?_zip_eq_some.mpr ⟨hc, hf⟩, rfl⟩

/-- The query of a column is a column of the query of the row exactly if the set operations may stay
as they are. -/
lemma isColumn_columnQuery_iff {i : Nat} {f : SelectField} (hf : q.fields[i]? = some f) :
    q.IsColumn i (columnQuery q f) ↔ AreColumns i q.setOps q.setOps :=
  ⟨fun ⟨_, _, hsetOps, _⟩ => hsetOps, fun hsetOps => .intro hf rfl hsetOps (by cases q; rfl)⟩

/-- **Assignments of rows.** A row that is assigned from a query is assigned column by column, in
order, and each column gets a query. These are the columns of the query of the row if and only if
nothing is combined with it or there are less than two columns. -/
theorem expand_query_iff (columns : List Name) (q : Select) (h : q.HasWidth columns.length) :
    ∃ pairs, (row columns (.query q)).expand = .ok pairs ∧
      pairs.map Prod.fst = columns ∧
      ((∀ i c e, pairs[i]? = some (c, e) → ∃ q', e = .subquery q' ∧ q.IsColumn i q') ↔
        q.setOps = [] ∨ columns.length ≤ 1) := by
  obtain ⟨hfields, hsetOps⟩ := h
  refine ⟨assigned columns q, expand_query hfields, map_fst_assigned hfields, ?_⟩
  constructor
  · intro hcolumns
    cases columns with
    | nil => exact .inr (Nat.zero_le 1)
    | cons c cs =>
      obtain ⟨f, fs, hf⟩ := List.exists_cons_of_length_eq_add_one hfields
      -- the query of the first column keeps the operands whole, so they have one column
      have hfirst : q.fields[0]? = some f := by rw [hf]; rfl
      obtain ⟨q', heq, hcolumn⟩ := hcolumns 0 c _ (getElem?_assigned.mpr ⟨f, rfl, hfirst, rfl⟩)
      cases heq
      rw [isColumn_columnQuery_iff hfirst] at hcolumn
      exact (hsetOps.eq_nil_or hcolumn).imp_right Nat.le_of_eq
  · intro hplain i c e he
    obtain ⟨f, hc, hf, rfl⟩ := getElem?_assigned.mp he
    refine ⟨_, rfl, (isColumn_columnQuery_iff hf).mpr ?_⟩
    obtain hnone | hone := hplain
    · rw [hnone]
      exact .nil
    · have hi : i < columns.length := (List.getElem?_eq_some_iff.mp hc).1
      -- the only column of an operand is the one that is asked for
      obtain rfl : i = 0 := by omega
      rw [show columns.length = 1 by omega] at hsetOps
      exact hsetOps.areColumns

/-- Two columns of the largest rows of a table. -/
theorem expand_query_iff_ordered :
    let q : Select :=
      { fields := [⟨.column (.ofText "x"), none⟩, ⟨.column (.ofText "y"), some (.ofText "z")⟩]
        tables := [.ofName (.ofText "u")]
        filter? := some (.compare (.column (.ofText "x")) .gt (.number 1))
        orderBy := [⟨.column (.ofText "y"), some .descending, none⟩]
        limit? := some ⟨some 1, none⟩ }
    let columns := columnNames ["a", "b"]
    q.HasWidth columns.length ∧ ∃ pairs, (row columns (.query q)).expand = .ok pairs ∧
      pairs.map Prod.fst = columns ∧
      ∀ i c e, pairs[i]? = some (c, e) → ∃ q', e = .subquery q' ∧ q.IsColumn i q' := by
  intro q columns
  have hq : q.HasWidth columns.length := .intro rfl .nil
  obtain ⟨pairs, hexpand, hnames, hiff⟩ := expand_query_iff columns q hq
  exact ⟨hq, pairs, hexpand, hnames, hiff.mpr (.inl rfl)⟩

/-- Two columns of the rows of two tables. Each column gets a query that combines rows of one value
with rows of two. -/
theorem expand_query_union :
    let pair (c d t : String) : Select :=
      { fields := [⟨.column (.ofText c), none⟩, ⟨.column (.ofText d), none⟩]
        tables := [.ofName (.ofText t)] }
    let q := (pair "x" "y" "u").combine .union false (pair "z" "w" "v")
    let columns := columnNames ["a", "b"]
    let update :=
      { Update.of (.ofName (.ofText "t")) with assignments := [.row columns (.query q)] }
    q.HasWidth columns.length ∧
      (∃ pairs, (row columns (.query q)).expand = .ok pairs ∧
        ¬∀ i c e, pairs[i]? = some (c, e) → ∃ q', e = .subquery q' ∧ q.IsColumn i q') ∧
      (Renderer.render { dialect := .sqlite, settings := { quoting := .never } }
          (.update update)).map Rendered.sql =
        .ok ("UPDATE t SET a = (SELECT x FROM u UNION SELECT z, w FROM v), " ++
          "b = (SELECT y FROM u UNION SELECT z, w FROM v)") := by
  intro pair q columns update
  have hsetOps : AllHaveWidth columns.length q.setOps := .cons (.intro rfl .nil) .nil
  refine ⟨.intro rfl hsetOps, ⟨_, expand_query rfl, fun h => ?_⟩, by decide +kernel⟩
  obtain ⟨q', heq, hcolumn⟩ := h 0 _ _ rfl
  cases heq
  rw [isColumn_columnQuery_iff rfl] at hcolumn
  obtain hnone | hone := hsetOps.eq_nil_or hcolumn
  · cases hnone
  · cases hone

end Assignment

end Polysql

import Polysql.Proofs.Catalog.Identity
import Polysql.Proofs.Evaluation.Reference
import Polysql.Proofs.Evaluation.RowInQuery
import Polysql.Proofs.Name
/-!
Which columns of a row are taken for those of the table that the detour of a row in a query
introduces. The table is called `t` and its columns are called `c1` and so on, whatever the row
refers to. A column that is qualified with `t`, or is called like one of these without a qualifier,
means the table inside of the detour; every other column means outside what it meant before, and a
row of such columns has the same values there. So the key of a changed table is taken for the table
of the detour exactly if the changed table is called `t`, too
(`Condition.expandRowInSelect_captures_iff`).
-/

namespace Polysql

/-! ### Tables in front of others -/

/-- A column means a table: it is qualified with the name of the table, or it is not qualified and
called like one of the columns of the table. -/
def Table.catches (t : Table) (n : Name) : Bool :=
  if n.isQualified then t.reference?.any n.qualifier.sameIgnoringCase
  else t.fields.any n.sameUnqualified

/-- The values of columns where a table is introduced: those that mean the table have values from
one of its rows, others are as they are outside. -/
def Bindings.behind (outer : Bindings) (t : Table) (row : Bindings) : Bindings :=
  fun n => if t.catches n then row n else outer n

/-- A part reads what it reads outside, whatever the rows of the table are, if nothing in it means
the table. -/
lemma Part.readsAlike_behind_iff {p : Part} {t : Table} :
    (∀ outer row : Bindings, p.ReadsAlike (outer.behind t row) outer) ↔
      ∀ n, p.RefersTo n → t.catches n = false := by
  constructor
  · intro h n hn
    -- the row has a value for every column, and outside none has one
    by_contra hcatches
    have hread := h .none_ (fun _ => some .null) n hn
    rw [Bindings.behind, if_pos ((Bool.not_eq_false _).mp hcatches)] at hread
    cases hread
  · intro h outer row n hn
    rw [Bindings.behind, h n hn]
    rfl

/-! ### The table of the detour -/

/-- The table that the detour of a row in a query introduces. -/
def rowTable (row : Row) (q : Select) : Table :=
  .derived q (rowInSelectAlias row.length)

/-- A column is referred to somewhere in a row. -/
def Row.RefersTo (row : Row) (n : Name) : Prop :=
  ∃ e ∈ row, (Part.expr e).RefersTo n

/-- The name is one that the detour gives away: it is qualified with `t`, or it is not qualified and
the name of one of the numbered columns. -/
def Name.IsTaken (width : Nat) (n : Name) : Prop :=
  n.isQualified = true ∧ n.qualifier.sameIgnoringCase (.ofText "t") = true ∨
    n.isQualified = false ∧
      ∃ i < width, n.sameUnqualified (.ofText ("c" ++ Nat.repr (i + 1))) = true

instance (width : Nat) (n : Name) : Decidable (n.IsTaken width) :=
  inferInstanceAs (Decidable (_ ∨ _))

section

variable {row : Row} {q : Select}

/-- The columns of the table are the numbered ones, under its name. -/
lemma fields_rowTable (hq : q.fields.length = row.length) :
    (rowTable row q).fields = (rowInSelectAlias row.length).qualified := by
  rw [rowTable, Table.fields]
  split
  next hempty =>
    have hwidth : row.length = 0 := by
      simpa [rowInSelectAlias, numberedColumns, columnNames] using hempty
    have hfields : q.fields = [] := List.length_eq_zero_iff.mp (hq.trans hwidth)
    rw [Select.fieldNames, hfields, hwidth]
    rfl
  next => rfl

lemma text_numbered_ne (i : Nat) : "c" ++ Nat.repr (i + 1) ≠ "" := by
  intro h
  have hlength := congrArg String.length h
  simp at hlength

/-- What means the table of the detour. -/
lemma catches_rowTable_iff (hq : q.fields.length = row.length) (n : Name) :
    (rowTable row q).catches n = true ↔ n.IsTaken row.length := by
  have hreference : (rowTable row q).reference? = some (.ofText "t") := rfl
  have hcolumns : (rowTable row q).fields.any n.sameUnqualified = true ↔
      ∃ i < row.length, n.sameUnqualified (.ofText ("c" ++ Nat.repr (i + 1))) = true := by
    have hlast (i : Nat) : n.sameUnqualified (.ofText "t" ++ .ofText ("c" ++ Nat.repr (i + 1))) =
        n.sameUnqualified (.ofText ("c" ++ Nat.repr (i + 1))) := by
      refine Name.sameUnqualified_congr ?_
      rw [Name.last?_append_ofText _ (text_numbered_ne i), Name.ofText_of_ne (text_numbered_ne i)]
      rfl
    simp only [fields_rowTable hq, TableAlias.qualified, rowInSelectAlias, numberedColumns,
      columnNames, List.any_map, List.any_eq_true, List.mem_range, Function.comp_apply, hlast]
  rw [Table.catches, Name.IsTaken, hreference, Option.any_some]
  cases n.isQualified with
  | true => simp
  | false => simpa using hcolumns

/-- The detour compares the columns of its table with the row, inside of a query on that table. -/
lemma Condition.expandRowInSelect_eq (hq : q.fields.length = row.length) (negate : Bool) :
    expandRowInSelect row q negate = .ok (.hasRows
      { fields := [⟨.number 1, none⟩]
        tables := [rowTable row q]
        filter? := some (.rowsEqual ((rowTable row q).fields.map Expr.column) row) }
      negate) := by
  rw [fields_rowTable hq, ← matching_eq, expandRowInSelect, if_neg fun h => h hq]
  rfl

lemma Condition.length_of_expandRowInSelect {negate : Bool} {c : Condition}
    (h : expandRowInSelect row q negate = .ok c) : q.fields.length = row.length := by
  by_contra hne
  rw [expandRowInSelect, if_pos hne] at h
  cases h

/-- The columns of the table mean the table. -/
lemma catches_of_mem_fields (hq : q.fields.length = row.length) :
    ∀ n ∈ (rowTable row q).fields, (rowTable row q).catches n = true := by
  intro n hn
  rw [fields_rowTable hq, TableAlias.qualified] at hn
  obtain ⟨c, hc, rfl⟩ := List.mem_map.mp hn
  obtain ⟨text, htext, rfl⟩ := List.mem_map.mp hc
  obtain ⟨i, -, rfl⟩ := List.mem_map.mp htext
  have ht : (Name.ofText "t").isEmpty = false := by decide
  rw [catches_rowTable_iff hq]
  refine .inl ⟨Name.isQualified_append_ofText ht (text_numbered_ne i), ?_⟩
  rw [Name.qualifier_append_ofText _ (text_numbered_ne i)]
  exact Name.sameIgnoringCase_refl _

/-- On one row of the query, the condition of the detour is as true as the equality of that row with
the one that is looked for, if the latter reads inside what it reads outside. -/
lemma eval_matching_behind (hq : q.fields.length = row.length) {outer : Bindings} {r : List Value}
    (hr : r.length = row.length)
    (hread : ∀ values : Bindings, ∀ e ∈ row,
      (Part.expr e).ReadsAlike (outer.behind (rowTable row q) values) outer) :
    (Condition.rowsEqual ((rowTable row q).fields.map Expr.column) row).eval
        (outer.behind (rowTable row q) (Bindings.none_.over (rowTable row q).fields r)) =
      (pairUp (evalEach outer row) (r.map .ok)).map Truth.rowsEqual := by
  have hvalues : evalEach
      (outer.behind (rowTable row q) (Bindings.none_.over (rowTable row q).fields r))
      ((rowTable row q).fields.map Expr.column) = r.map .ok := by
    have hcaught : evalEach
        (outer.behind (rowTable row q) (Bindings.none_.over (rowTable row q).fields r))
        ((rowTable row q).fields.map Expr.column) =
          evalEach (Bindings.none_.over (rowTable row q).fields r)
            ((rowTable row q).fields.map Expr.column) := by
      refine evalEach_congr (List.forall_mem_map.mpr fun n hn m hm => ?_)
      obtain rfl := Part.refersTo_column_iff.mp hm
      rw [Bindings.behind, if_pos (catches_of_mem_fields hq _ hn)]
    rw [hcaught, fields_rowTable hq]
    exact evalEach_over _ ((length_qualified_rowInSelectAlias _).trans hr.symm)
      (nodup_rowInSelectAlias row.length)
  rw [eval_rowsEqual_columns hvalues, evalEach_congr (hread _)]

end

/-! ### Keys of changed tables -/

/-- A key that is compared as a row consists of the columns of the identifying key, under the
reference of the changed table. -/
lemma ChangedRows.exists_key {r : ChangedRows} {s : Scope} {n : NamedTable} {row : Row}
    {q : Select} {negate : Bool}
    (h : r.keyCondition s (.named n) = .ok (.rowInSelect row q negate)) :
    ∃ k : Key, (s.tableInfo? n.name).bind TableInfo.identifyingKey? = some k ∧
      row = k.exprs n.reference := by
  rw [keyCondition] at h
  cases hkey : identifying s n with
  | error e =>
    rw [hkey] at h
    cases h
  | ok key =>
    rw [hkey, ok_bind] at h
    split at h
    next => cases h
    next hmany =>
      cases h
      rw [identifying] at hkey
      split at hkey
      next k hk => exact ⟨k, hk, (Except.ok.inj hkey).symm⟩
      next =>
        -- the number of a row is one column, which is not compared as a row
        split at hkey
        next => exact absurd (Except.ok.inj hkey).symm (hmany _)
        next => cases hkey

/-- The columns of a key mean the table of the detour exactly if the reference of the changed table
is `t`. -/
lemma Key.exists_isTaken_iff {k : Key} {reference : Name} {width : Nat}
    (hreference : reference.isEmpty = false) (hne : k.columns ≠ [])
    (hcolumns : ∀ c ∈ k.columns, c ≠ "") :
    (∃ n, Row.RefersTo (k.exprs reference) n ∧ n.IsTaken width) ↔
      reference.sameIgnoringCase (.ofText "t") = true := by
  constructor
  · rintro ⟨n, ⟨e, he, hn⟩, htaken⟩
    obtain ⟨c, hc, rfl⟩ := List.mem_map.mp he
    obtain rfl := Part.refersTo_column_iff.mp hn
    rw [Name.IsTaken, Name.isQualified_append_ofText hreference (hcolumns c hc),
      Name.qualifier_append_ofText _ (hcolumns c hc)] at htaken
    obtain ⟨-, hsame⟩ | ⟨h, -⟩ := htaken
    · exact hsame
    · cases h
  · intro hsame
    obtain ⟨c, hc⟩ := List.exists_mem_of_ne_nil _ hne
    refine ⟨reference ++ .ofText c, ⟨_, List.mem_map_of_mem hc, Part.refersTo_column_iff.mpr rfl⟩,
      .inl ⟨Name.isQualified_append_ofText hreference (hcolumns c hc), ?_⟩⟩
    rw [Name.qualifier_append_ofText _ (hcolumns c hc)]
    exact hsame

/-! ### The result -/

/-- **What the detour of a row captures.** Wherever the detour of a row in a query succeeds, it
compares the row inside of a query on the table it introduces. What the row refers to means the same
inside as outside exactly if none of it is qualified with `t` or called like a numbered column
without a qualifier, at whatever depth. Then the row has the same values inside, and a row of the
query is found exactly if it is equal to the row outside. If the row is the key of a changed table,
it is captured exactly if that table is referred to as `t`. -/
theorem Condition.expandRowInSelect_captures_iff {row : Row} {q : Select} {negate : Bool}
    {c : Condition} (h : expandRowInSelect row q negate = .ok c) :
    let t := rowTable row q
    let matching := Condition.rowsEqual (t.fields.map Expr.column) row
    c = .hasRows { fields := [⟨.number 1, none⟩], tables := [t], filter? := some matching }
      negate ∧
    ((∀ outer values : Bindings, ∀ e ∈ row,
        (Part.expr e).ReadsAlike (outer.behind t values) outer) ↔
      ∀ n, row.RefersTo n → ¬n.IsTaken row.length) ∧
    ((∀ n, row.RefersTo n → ¬n.IsTaken row.length) → ∀ outer : Bindings,
      (∀ values, evalEach (outer.behind t values) row = evalEach outer row) ∧
      ∀ r : List Value, r.length = row.length →
        matching.eval (outer.behind t (Bindings.none_.over t.fields r)) =
          (pairUp (evalEach outer row) (r.map .ok)).map Truth.rowsEqual) ∧
    ∀ (changed : ChangedRows) (s : Scope) (n : NamedTable),
      changed.keyCondition s (.named n) = .ok (.rowInSelect row q negate) →
        ∃ k : Key, (s.tableInfo? n.name).bind TableInfo.identifyingKey? = some k ∧
          row = k.exprs n.reference ∧
          (n.reference.isEmpty = false → k.columns ≠ [] → (∀ c ∈ k.columns, c ≠ "") →
            ((∃ m, row.RefersTo m ∧ m.IsTaken row.length) ↔
              n.reference.sameIgnoringCase (.ofText "t") = true)) := by
  intro t matching
  have hq := length_of_expandRowInSelect h
  have hreads : (∀ outer values : Bindings, ∀ e ∈ row,
        (Part.expr e).ReadsAlike (outer.behind t values) outer) ↔
      ∀ n, row.RefersTo n → ¬n.IsTaken row.length := by
    constructor
    -- a name that is caught reads the row of the query, and any other reads what it did
    · rintro hread n ⟨e, he, hn⟩
      rw [← catches_rowTable_iff hq, Bool.not_eq_true]
      exact Part.readsAlike_behind_iff.mp (fun outer values => hread outer values e he) n hn
    · intro hfree outer values e he
      refine Part.readsAlike_behind_iff.mpr (fun n hn => ?_) outer values
      rw [← Bool.not_eq_true, catches_rowTable_iff hq]
      exact hfree n ⟨e, he, hn⟩
  refine ⟨?_, hreads, fun hfree outer => ⟨fun values => ?_, fun r hr => ?_⟩, ?_⟩
  · rw [expandRowInSelect_eq hq] at h
    exact (Except.ok.inj h).symm
  · exact evalEach_congr (hreads.mpr hfree outer values)
  · exact eval_matching_behind hq hr (hreads.mpr hfree outer)
  · intro changed s n hkey
    obtain ⟨k, hk, rfl⟩ := ChangedRows.exists_key hkey
    exact ⟨k, hk, rfl, Key.exists_isTaken_iff⟩

/-- The key of the seats keeps its values inside of the detour. -/
theorem Condition.expandRowInSelect_captures_iff_seat :
    let key := Key.exprs ⟨"seat_key", ["line", "number"]⟩ (.ofText "seat")
    let changed : ChangedRows := ⟨none, [], some 1⟩
    let q := changed.query (.named ⟨.ofText "seat", none, []⟩) key
    changed.keyCondition (ChangedRows.scopeOf ChangedRows.seats)
        (.named ⟨.ofText "seat", none, []⟩) = .ok (.rowInSelect key q false) ∧
      (expandRowInSelect key q false).isOk = true ∧
      ∀ outer values : Bindings,
        evalEach (outer.behind (rowTable key q) values) key = evalEach outer key := by
  intro key changed q
  have hq : q.fields.length = key.length := rfl
  have htable : (ChangedRows.scopeOf ChangedRows.seats).tableInfo? (.ofText "seat") =
      some ChangedRows.seats :=
    ChangedRows.tableInfo?_scopeOf (by decide +kernel)
  have hkey : changed.keyCondition (ChangedRows.scopeOf ChangedRows.seats)
      (.named ⟨.ofText "seat", none, []⟩) = .ok (.rowInSelect key q false) := by
    rw [ChangedRows.keyCondition, ChangedRows.identifying, htable]
    rfl
  obtain ⟨-, -, hfree, hcaptured⟩ := expandRowInSelect_captures_iff (expandRowInSelect_eq hq false)
  obtain ⟨k, hk, -, hiff⟩ := hcaptured changed _ _ hkey
  rw [htable] at hk
  obtain rfl : ⟨"seat_key", ["line", "number"]⟩ = k := Option.some.inj hk
  refine ⟨hkey, rfl, fun outer => (hfree (fun m hm htaken => ?_) outer).1⟩
  -- the name of the table is no `t`, whatever else its key is called
  have hsame := (hiff (by decide) (by decide) (by decide)).mp ⟨m, hm, htaken⟩
  exact absurd hsame (by decide +kernel)

/-- The column `t.c1` does not: it is 2 outside and 1 in the row of the query, which is found all
the same. -/
theorem Condition.expandRowInSelect_captures_t :
    let row : Row := [.column (.ofTexts ["t", "c1"])]
    let q : Select := { fields := [⟨.number 1, none⟩] }
    let outer := Bindings.ofList [("t.c1", .ofNat 2)]
    (expandRowInSelect row q false).isOk = true ∧
      (∃ n, row.RefersTo n ∧ n.IsTaken row.length) ∧
      Truth.rowInList (evalEach outer row) [[.ok (.ofNat 1)]] false = .ok (some false) ∧
      (Evaluated.ofExcept (expandRowInSelect row q false) >>= evalOn outer [[.ofNat 1]]) =
        .ok (some true) := by
  refine ⟨rfl, ⟨.ofTexts ["t", "c1"], ⟨_, List.mem_singleton_self _,
    Part.refersTo_column_iff.mpr rfl⟩, by decide +kernel⟩, rfl, ?_⟩
  rw [eval_expandRowInSelect rfl (by decide)]
  rfl

end Polysql

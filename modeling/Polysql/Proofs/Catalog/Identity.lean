import Polysql.Draft.Change
import Polysql.Proofs.Evaluation.RowInQuery
import Polysql.Proofs.Evaluation.RowOrder
import Polysql.Proofs.Rank.Query
/-!
Rows that are identified by a key. A change that is ordered or limited by means of a key finds each
row whose key is known to be equal to that of a row picked by the inner query. Where the keys are
unique these are picked rows only, and they are all of them exactly if every value in the keys of
the picked rows is equal to itself (`ChangedRows.keyCondition_identifies`). NULL is not, so a row
that has NULL in a unique key is never found again; a primary key and a key on columns that hold no
NULL find all rows, apart from those with values that cannot be compared.
-/

namespace Polysql

/-! ### The content of a table -/

/-- A row of a table in the database: a value for every column, whatever the case of its name. -/
structure Record where
  /-- The value of a column. -/
  value : String → Value
  value_congr {a b : String} (h : Text.sameIgnoringCase a b = true) : value a = value b

namespace Record

/-- The row with the values of some columns; all others are NULL. -/
def ofList (values : List (String × Value)) : Record where
  value name := ((values.find? fun p => Text.sameIgnoringCase p.1 name).map Prod.snd).getD .null
  value_congr {a b} h := by
    have hfold : Text.foldCase a = Text.foldCase b := by simpa [Text.sameIgnoringCase] using h
    simp only [Text.sameIgnoringCase, hfold]

/-- The values of the columns, by their names behind the reference of the table. -/
def bindings (r : Record) (reference : Name) : Bindings := fun name =>
  if name.parts.take reference.parts.length = reference.parts then
    some (r.value (Name.mk (name.parts.drop reference.parts.length)).text)
  else
    none

end Record

namespace Key

/-- The columns of a key, behind the reference of its table. -/
def exprs (k : Key) (reference : Name) : List Expr :=
  k.columns.map fun c => .column (reference ++ Name.ofText c)

/-- The values of a row in the columns of a key. -/
def values (k : Key) (r : Record) : List Value :=
  k.columns.map r.value

/-- Two rows have the same key: their values are known to be equal, and so none of them is NULL. -/
def Agrees (k : Key) (r r' : Record) : Prop :=
  ∀ c ∈ k.columns, Truth.compare (r.value c) .eq (r'.value c) = some true

/-- No value in the key of a row is NULL. -/
def HoldsNoNull (k : Key) (r : Record) : Prop :=
  ∀ c ∈ k.columns, (r.value c).isNull = false

/-- All values in the key of a row can be compared, if they are not NULL. -/
def IsComparable (k : Key) (r : Record) : Prop :=
  ∀ c ∈ k.columns, (r.value c).isIncomparable = false

instance (k : Key) (r r' : Record) : Decidable (k.Agrees r r') :=
  inferInstanceAs (Decidable (∀ c ∈ k.columns, _))

instance (k : Key) (r : Record) : Decidable (k.HoldsNoNull r) :=
  inferInstanceAs (Decidable (∀ c ∈ k.columns, _))

instance (k : Key) (r : Record) : Decidable (k.IsComparable r) :=
  inferInstanceAs (Decidable (∀ c ∈ k.columns, _))

end Key

namespace TableInfo

/-- Some rows are what the declarations of a table allow it to hold. -/
structure Admits (t : TableInfo) (rows : List Record) : Prop where
  notNull : ∀ c ∈ t.columns, c.nullable = false → ∀ r ∈ rows, (r.value c.name).isNull = false
  primary_notNull : ∀ k, t.primaryKey? = some k → ∀ r ∈ rows, k.HoldsNoNull r
  primary_unique : ∀ k, t.primaryKey? = some k → rows.Pairwise fun r r' => ¬k.Agrees r r'
  unique : ∀ k ∈ t.uniqueKeys, rows.Pairwise fun r r' => ¬k.Agrees r r'

/-- The key is the primary one, or its columns are declared to hold no NULL. -/
def Mandatory (t : TableInfo) (k : Key) : Prop :=
  t.primaryKey? = some k ∨ ∀ c ∈ k.columns, ∃ d ∈ t.columns,
    Text.sameIgnoringCase d.name c = true ∧ d.nullable = false

variable {t : TableInfo} {k : Key} {rows : List Record}

lemma Admits.holdsNoNull (h : t.Admits rows) (hk : t.Mandatory k) {r : Record} (hr : r ∈ rows) :
    k.HoldsNoNull r := by
  rcases hk with hprimary | hdeclared
  · exact h.primary_notNull k hprimary r hr
  · intro c hc
    obtain ⟨d, hd, hname, hnull⟩ := hdeclared c hc
    rw [← r.value_congr hname]
    exact h.notNull d hd hnull r hr

/-- The key that identifies rows is unique. -/
lemma Admits.pairwise (h : t.Admits rows) (hk : t.identifyingKey? = some k) :
    rows.Pairwise fun r r' => ¬k.Agrees r r' := by
  rw [identifyingKey?, Option.or_eq_some_iff] at hk
  rcases hk with hprimary | ⟨-, hunique⟩
  · exact h.primary_unique k hprimary
  · exact h.unique k (List.mem_of_head? hunique)

end TableInfo

namespace Key

variable {k : Key}

lemma agrees_comm {r r' : Record} : k.Agrees r r' ↔ k.Agrees r' r :=
  forall₂_congr fun c _ => by rw [Truth.compare_eq_comm]

/-- A row has the same key as itself, unless the key holds something that is not equal to itself. -/
lemma agrees_self {r : Record} : k.Agrees r r ↔ k.HoldsNoNull r ∧ k.IsComparable r := by
  have hself (v : Value) : Truth.compare v .eq v = some true ↔
      v.isNull = false ∧ v.isIncomparable = false := by
    rw [Truth.compare, Value.compare?_self]
    cases v.isNull <;> cases v.isIncomparable <;> decide
  simp only [Agrees, HoldsNoNull, IsComparable, hself, ← forall_and]

end Key

/-! ### Looking for keys -/

/-- The rows that a query yields for those it picks: the values of what it selects. -/
def Select.yields (picked : List Bindings) (q : Select) : List (List Outcome) :=
  picked.map fun b => evalEach b (q.fields.map SelectField.expr)

/-- The truth of a membership in a query that picks some rows. -/
def Condition.evalPicking (columns : Bindings) (picked : List Bindings) :
    Condition → Evaluated Truth
  | .inSelect e q negate => do
    let v ← e.eval columns
    return Truth.inList v (← collect (q.yields picked).flatten) negate
  | .rowInSelect row q negate => Truth.rowInList (evalEach columns row) (q.yields picked) negate
  | c => c.eval columns

section

variable (k : Key) (reference : Name)

/-- The columns of a key have the values of the row. -/
lemma evalEach_exprs (r : Record) :
    evalEach (r.bindings reference) (k.exprs reference) = (k.values r).map .ok := by
  rw [evalEach_eq_map, Key.exprs, Key.values, List.map_map, List.map_map]
  refine List.map_congr_left fun c _ => ?_
  have hcolumn : r.bindings reference (reference ++ Name.ofText c) = some (r.value c) := by
    have htext : (Name.ofText c).text = c := by
      by_cases hc : c = "" <;> simp [Name.text, Name.ofText, Name.ofTexts, Name.ofTextsWith,
        NamePart.ofText?, Text.joined, hc]
    rw [Record.bindings, Name.parts_append, List.take_left, if_pos rfl, List.drop_left]
    exact congrArg (fun s => some (r.value s)) htext
  simp only [Function.comp_apply, Expr.column, Expr.eval, hcolumn]

/-- The inner query selects the key and nothing else. -/
lemma fields_query (c : ChangedRows) (t : Table) (key : List Expr) :
    (c.query t key).fields.map SelectField.expr = key := by
  have hfields : (({} : Select).addFields key).fields = key.map fun e => ⟨e, none⟩ := by
    rw [Select.addFields_eq]
    rfl
  change (({} : Select).addFields key).fields.map SelectField.expr = key
  rw [hfields, List.map_map]
  exact List.map_id key

lemma yields_query (c : ChangedRows) (t : Table) (picked : List Record) :
    (c.query t (k.exprs reference)).yields (picked.map fun r => r.bindings reference) =
      (picked.map k.values).map (List.map .ok) := by
  rw [Select.yields, fields_query, List.map_map, List.map_map]
  exact List.map_congr_left fun r _ => evalEach_exprs k reference r

/-- The truth of a membership of keys: the key is equal to one of those that were picked. -/
def Key.isAmong (picked : List Record) (r : Record) : Truth :=
  .any (picked.map fun r' => Truth.rowsEqual ((k.values r).zip (k.values r')))

/-- The outcomes of a membership of one value are those of the membership of a row of one. -/
lemma isAmong_single {column : String} (hk : k.columns = [column]) (picked : List Record)
    (r : Record) :
    k.isAmong picked r =
      Truth.inList (r.value column) (picked.map fun r' => r'.value column) false := by
  rw [Key.isAmong, Truth.inList, Truth.negateIf_false, List.map_map]
  refine congrArg Truth.any (List.map_congr_left fun r' _ => ?_)
  rw [Key.values, Key.values, hk]
  exact Truth.all_singleton _

lemma evalPicking_inSelect {column : String} (hk : k.columns = [column]) (c : ChangedRows)
    (t : Table) (picked : List Record) (r : Record) :
    Condition.evalPicking (r.bindings reference) (picked.map fun r' => r'.bindings reference)
        (.inSelect (.column (reference ++ Name.ofText column)) (c.query t (k.exprs reference))
          false) =
      .ok (k.isAmong picked r) := by
  have hvalues (r : Record) : k.values r = [r.value column] := by rw [Key.values, hk]; rfl
  have heval : (Expr.column (reference ++ Name.ofText column)).eval (r.bindings reference) =
      .ok (r.value column) := by
    have h := evalEach_exprs k reference r
    rw [Key.exprs, hk, hvalues, evalEach_eq_map] at h
    exact (List.cons.inj h).1
  have hyields : collect ((c.query t (k.exprs reference)).yields
        (picked.map fun r' => r'.bindings reference)).flatten =
      .ok (picked.map fun r' => r'.value column) := by
    -- a key of one column has rows of one value, so the rows end to end are the values
    have hflat : (((picked.map k.values).map (List.map (Except.ok (ε := Failure)))).flatten) =
        picked.map fun r' => .ok (r'.value column) := by
      induction picked with
      | nil => rfl
      | cons r' picked ih => rw [List.map_cons, List.map_cons, List.flatten_cons, ih, hvalues]; rfl
    rw [yields_query, hflat, collect, List.mapM_map]
    exact List.mapM_pure
  rw [Condition.evalPicking, heval, ok_bind, hyields, ok_bind, isAmong_single k hk]
  rfl

lemma evalPicking_rowInSelect (c : ChangedRows) (t : Table) (picked : List Record) (r : Record) :
    Condition.evalPicking (r.bindings reference) (picked.map fun r' => r'.bindings reference)
        (.rowInSelect (k.exprs reference) (c.query t (k.exprs reference)) false) =
      .ok (k.isAmong picked r) := by
  have hwidths : ∀ vs ∈ picked.map k.values, vs.length = (k.exprs reference).length := by
    simp [Key.values, Key.exprs]
  have hpairs : ((picked.map k.values).mapM fun vs =>
        (pairUp ((k.values r).map .ok) (vs.map .ok)).map Truth.rowsEqual) =
      .ok ((picked.map k.values).map fun vs => Truth.rowsEqual ((k.values r).zip vs)) := by
    simp only [pairUp_values, ok_map]
    exact List.mapM_pure
  rw [Condition.evalPicking, yields_query, rowInList_of_widths hwidths, evalEach_exprs, hpairs,
    ok_map, Truth.negateIf_false, Key.isAmong, List.map_map]
  rfl

end

namespace Key

variable {k : Key}

lemma rowsEqual_values {r r' : Record} :
    Truth.rowsEqual ((k.values r).zip (k.values r')) = some true ↔ k.Agrees r r' := by
  rw [Truth.rowsEqual, Truth.all_eq_true, values, values, List.zip_map', List.map_map,
    List.forall_mem_map]
  rfl

/-- A row is found if it has the same key as one of those that were picked. -/
lemma isAmong_eq_true {picked : List Record} {r : Record} :
    k.isAmong picked r = some true ↔ ∃ r' ∈ picked, k.Agrees r r' := by
  rw [isAmong, Truth.any_eq_true, List.mem_map]
  simp only [rowsEqual_values]

/-- Where no two rows have the same key, a row is found if it was picked itself, and its key is
equal to itself. -/
lemma isAmong_iff {rows : List Record} (hunique : rows.Pairwise fun r r' => ¬k.Agrees r r')
    (picked : List (Fin rows.length)) (i : Fin rows.length) :
    k.isAmong (picked.map rows.get) (rows.get i) = some true ↔
      i ∈ picked ∧ k.HoldsNoNull (rows.get i) ∧ k.IsComparable (rows.get i) := by
  -- the key is unique, so a row agrees with no row but itself
  have hsame (j : Fin rows.length) (h : k.Agrees (rows.get i) (rows.get j)) : i = j := by
    rw [List.pairwise_iff_getElem] at hunique
    rcases Nat.lt_trichotomy i j with hij | hij | hij
    · exact absurd h (hunique i j i.isLt j.isLt hij)
    · exact Fin.ext hij
    · exact absurd (agrees_comm.mp h) (hunique j i j.isLt i.isLt hij)
  simp only [isAmong_eq_true, List.mem_map, exists_exists_and_eq_and, ← agrees_self]
  constructor
  · rintro ⟨j, hj, h⟩
    obtain rfl := hsame j h
    exact ⟨hj, h⟩
  · rintro ⟨hi, h⟩
    exact ⟨i, hi, h⟩

end Key

/-! ### Changes by means of a key -/

namespace ChangedRows

variable {s : Scope} {n : NamedTable} {t : TableInfo} {k : Key}

/-- The condition of a change by means of a key is true of the rows whose key is among those of the
rows that the inner query picks. -/
lemma evalPicking_keyCondition (ht : s.tableInfo? n.name = some t)
    (hk : t.identifyingKey? = some k) (c : ChangedRows) :
    ∃ condition, c.keyCondition s (.named n) = .ok condition ∧
      ∀ (picked : List Record) (r : Record),
        condition.evalPicking (r.bindings n.reference)
          (picked.map fun r' => r'.bindings n.reference) = .ok (k.isAmong picked r) := by
  have hkey : identifying s n = .ok (k.exprs n.reference) := by
    rw [identifying, ht, Option.bind_some, hk, Key.exprs]
  rw [keyCondition, hkey, ok_bind]
  refine ⟨_, rfl, fun picked r => ?_⟩
  split
  next e he =>
    obtain ⟨column, hcolumn, rfl⟩ := List.map_eq_singleton_iff.mp he
    exact evalPicking_inSelect k n.reference hcolumn c (.named n) picked r
  next => exact evalPicking_rowInSelect k n.reference c (.named n) picked r

/-- **Changes by means of a key.** Of a table whose rows are what its declarations allow, the
condition is true of the rows that the inner query picks, apart from those that have NULL or a value
that cannot be compared in their key. So it finds exactly the rows that are picked if and only if
none of these has such a key; and no row has NULL in a key that is primary or on columns without
NULL. -/
theorem keyCondition_identifies (ht : s.tableInfo? n.name = some t)
    (hk : t.identifyingKey? = some k) (c : ChangedRows) {rows : List Record}
    (hrows : t.Admits rows) (picked : List (Fin rows.length)) :
    ∃ condition, c.keyCondition s (.named n) = .ok condition ∧
      (∀ i, condition.evalPicking ((rows.get i).bindings n.reference)
            (picked.map fun j => (rows.get j).bindings n.reference) = .ok (some true) ↔
          i ∈ picked ∧ k.HoldsNoNull (rows.get i) ∧ k.IsComparable (rows.get i)) ∧
      ((∀ i, condition.evalPicking ((rows.get i).bindings n.reference)
              (picked.map fun j => (rows.get j).bindings n.reference) = .ok (some true) ↔
            i ∈ picked) ↔
        ∀ i ∈ picked, k.HoldsNoNull (rows.get i) ∧ k.IsComparable (rows.get i)) ∧
      (t.Mandatory k → ∀ i, k.HoldsNoNull (rows.get i)) := by
  obtain ⟨condition, hcondition, heval⟩ := evalPicking_keyCondition ht hk c
  have hfound (i : Fin rows.length) :
      condition.evalPicking ((rows.get i).bindings n.reference)
          (picked.map fun j => (rows.get j).bindings n.reference) = .ok (some true) ↔
        i ∈ picked ∧ k.HoldsNoNull (rows.get i) ∧ k.IsComparable (rows.get i) := by
    have h := heval (picked.map rows.get) (rows.get i)
    rw [List.map_map] at h
    rw [← Key.isAmong_iff (hrows.pairwise hk) picked i]
    exact (Eq.congr_left h).trans (by rw [Except.ok.injEq])
  refine ⟨condition, hcondition, hfound, ?_, fun hmandatory i =>
    hrows.holdsNoNull hmandatory (List.get_mem rows i)⟩
  simp only [hfound, and_iff_left_iff_imp]

/-- What is known of the database is one table. -/
def scopeOf (t : TableInfo) : Scope where
  target := ⟨.postgres, some ⟨[⟨t.name.qualifier, [t], []⟩]⟩, .ignore, .ignore⟩

/-- Only that table can be found. -/
lemma tableInfo?_scopeOf {t : TableInfo} {n : Name}
    (h : ((scopeOf t).tableInfo? n).isSome = true) : (scopeOf t).tableInfo? n = some t := by
  obtain ⟨t', ht'⟩ := Option.isSome_iff_exists.mp h
  obtain ⟨schema, hschema, hmem⟩ := List.mem_flatMap.mp (List.mem_of_find?_eq_some ht')
  obtain rfl := List.mem_singleton.mp (List.mem_filter.mp hschema).1
  rw [ht', List.mem_singleton.mp hmem]

/-- The seats of a hall, which are identified by their line and their number. -/
def seats : TableInfo where
  name := .ofTexts ["hall", "seat"]
  columns := [⟨"line", .integer, false, false⟩, ⟨"number", .integer, false, false⟩]
  primaryKey? := some ⟨"seat_key", ["line", "number"]⟩
  uniqueKeys := []
  foreignKeys := []

/-- Vouchers, some of which have a code. -/
def vouchers : TableInfo where
  name := .ofTexts ["shop", "voucher"]
  columns := [⟨"code", .integer, true, false⟩]
  primaryKey? := none
  uniqueKeys := [⟨"voucher_code", ["code"]⟩]
  foreignKeys := []

/-- Two seats in one line. -/
def twoSeats : List Record :=
  [.ofList [("line", .ofNat 1), ("number", .ofNat 1)],
    .ofList [("line", .ofNat 1), ("number", .ofNat 2)]]

/-- The first of the two seats. -/
def firstSeat : Fin twoSeats.length :=
  ⟨0, by decide⟩

lemma admits_twoSeats : seats.Admits twoSeats where
  notNull := by decide +kernel
  primary_notNull k hk := by
    obtain rfl := Option.some.inj hk
    decide +kernel
  primary_unique k hk := by
    obtain rfl := Option.some.inj hk
    decide +kernel
  unique := nofun

/-- Of two seats in one line, the condition finds the one that is picked. -/
theorem keyCondition_identifies_seat :
    seats.Admits twoSeats ∧ ∃ condition,
      keyCondition ⟨none, [], some 1⟩ (scopeOf seats) (.named ⟨.ofText "seat", none, []⟩) =
          .ok condition ∧
        ∀ i, condition.evalPicking ((twoSeats.get i).bindings (.ofText "seat"))
            [(twoSeats.get firstSeat).bindings (.ofText "seat")] = .ok (some true) ↔
          i ∈ [firstSeat] := by
  have htable : (scopeOf seats).tableInfo? (.ofText "seat") = some seats :=
    tableInfo?_scopeOf (by decide +kernel)
  obtain ⟨condition, hcondition, -, hexact, -⟩ := keyCondition_identifies
    (n := ⟨.ofText "seat", none, []⟩) htable rfl ⟨none, [], some 1⟩ admits_twoSeats
    [firstSeat]
  exact ⟨admits_twoSeats, condition, hcondition, hexact.mpr (by decide +kernel)⟩

/-- A voucher without a code is picked, but the condition is unknown of it. -/
theorem keyCondition_misses_voucher :
    vouchers.Admits [.ofList []] ∧
      ∃ condition, keyCondition ⟨none, [], some 1⟩ (scopeOf vouchers)
          (.named ⟨.ofText "voucher", none, []⟩) = .ok condition ∧
        condition.evalPicking ((Record.ofList []).bindings (.ofText "voucher"))
          [(Record.ofList []).bindings (.ofText "voucher")] = .ok none := by
  have hrows : vouchers.Admits [.ofList []] := {
    notNull := by decide +kernel
    primary_notNull := nofun
    primary_unique := nofun
    unique := by simp }
  have htable : (scopeOf vouchers).tableInfo? (.ofText "voucher") = some vouchers :=
    tableInfo?_scopeOf (by decide +kernel)
  obtain ⟨condition, hcondition, heval⟩ := evalPicking_keyCondition
    (n := ⟨.ofText "voucher", none, []⟩) htable rfl ⟨none, [], some 1⟩
  exact ⟨hrows, condition, hcondition, heval [.ofList []] (.ofList [])⟩

end ChangedRows

end Polysql

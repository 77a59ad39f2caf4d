import Mathlib.Data.List.Chain
import Polysql.Draft.Select
import Polysql.Proofs.Rank.Expr
/-!
The ranks of tables and queries. The queries that take the place of a table have a lower rank than
the table (`Select.rank_ofRows_lt`, `Select.rank_renamed_lt`), and the conditions that take over its
semi and anti joins have none that is higher (`Table.rank_absorbed_le`).
-/

namespace Polysql

/-! ### Ranks in lists -/

section

variable {α : Type} {f : α → Nat} {highest : List α → Nat}

/-- The highest rank of a list is not below that of an element. -/
lemma rank_le_highest (hcons : ∀ a as, highest (a :: as) = max (f a) (highest as)) {a : α}
    {as : List α} (h : a ∈ as) : f a ≤ highest as := by
  induction as with
  | nil => cases h
  | cons b as ih =>
    rw [hcons]
    rcases List.mem_cons.mp h with rfl | h
    · exact Nat.le_max_left _ _
    · exact Nat.le_trans (ih h) (Nat.le_max_right _ _)

/-- A bound of all ranks of a list is one of the highest. -/
lemma highest_le (hnil : highest [] = 1)
    (hcons : ∀ a as, highest (a :: as) = max (f a) (highest as)) {k : Nat} (hk : 1 ≤ k)
    {as : List α} (h : ∀ a ∈ as, f a ≤ k) : highest as ≤ k := by
  induction as with
  | nil => rwa [hnil]
  | cons a as ih =>
    obtain ⟨ha, has⟩ := List.forall_mem_cons.mp h
    rw [hcons]
    exact Nat.max_le.mpr ⟨ha, ih has⟩

end

lemma rank_le_rankOfBranches {b : Condition × Expr} {bs : List (Condition × Expr)}
    (h : b ∈ bs) : max b.1.rank b.2.rank ≤ rankOfBranches bs :=
  rank_le_highest (f := fun b : Condition × Expr => max b.1.rank b.2.rank)
    (fun b bs => by rw [rankOfBranches_cons, Nat.max_assoc]) h

lemma rank_le_rankOfCases {b : Expr × Expr} {bs : List (Expr × Expr)} (h : b ∈ bs) :
    max b.1.rank b.2.rank ≤ rankOfCases bs :=
  rank_le_highest (f := fun b : Expr × Expr => max b.1.rank b.2.rank)
    (fun b bs => by rw [Nat.max_assoc]; rfl) h

lemma rank_le_rankOfCalls {c : Call} {cs : List Call} (h : c ∈ cs) : c.rank ≤ rankOfCalls cs :=
  rank_le_highest (fun _ _ => rfl) h

lemma rankOfFields_cons (f : SelectField) (fs : List SelectField) :
    rankOfFields (f :: fs) = max f.expr.rank (rankOfFields fs) := by
  cases f
  rfl

lemma rank_le_rankOfFields {f : SelectField} {fs : List SelectField} (h : f ∈ fs) :
    f.expr.rank ≤ rankOfFields fs :=
  rank_le_highest (f := fun f : SelectField => f.expr.rank) rankOfFields_cons h

lemma rankOfFields_le {k : Nat} (hk : 1 ≤ k) {fs : List SelectField}
    (h : ∀ f ∈ fs, f.expr.rank ≤ k) : rankOfFields fs ≤ k :=
  highest_le (f := fun f : SelectField => f.expr.rank) rfl rankOfFields_cons hk h

lemma rankOfTables_cons (t : Table) (ts : List Table) :
    rankOfTables (t :: ts) = max t.rank (rankOfTables ts) := rfl

lemma rank_le_rankOfTables {t : Table} {ts : List Table} (h : t ∈ ts) :
    t.rank ≤ rankOfTables ts :=
  rank_le_highest rankOfTables_cons h

lemma rankOfSetOps_cons (o : SetOperation) (os : List SetOperation) :
    rankOfSetOps (o :: os) = max o.select.rank (rankOfSetOps os) := by
  cases o
  rfl

lemma rank_le_rankOfSetOps {o : SetOperation} {os : List SetOperation} (h : o ∈ os) :
    o.select.rank ≤ rankOfSetOps os :=
  rank_le_highest (f := fun o : SetOperation => o.select.rank) rankOfSetOps_cons h

lemma rankOfSetOps_le {k : Nat} (hk : 1 ≤ k) {os : List SetOperation}
    (h : ∀ o ∈ os, o.select.rank ≤ k) : rankOfSetOps os ≤ k :=
  highest_le (f := fun o : SetOperation => o.select.rank) rfl rankOfSetOps_cons hk h

lemma rank_le_rankOfOrder {o : OrderItem} {os : List OrderItem} (h : o ∈ os) :
    o.expr.rank ≤ rankOfOrder os :=
  rank_le_highest (f := fun o : OrderItem => o.expr.rank) (fun o os => by cases o; rfl) h

lemma rank_le_rankOfCtes {c : Cte} {cs : List Cte} (h : c ∈ cs) :
    c.select.rank ≤ rankOfCtes cs :=
  rank_le_highest (f := fun c : Cte => c.select.rank) (fun c cs => by cases c; rfl) h

lemma rankOfExprs_le {k : Nat} (hk : 1 ≤ k) {es : List Expr} (h : ∀ e ∈ es, e.rank ≤ k) :
    rankOfExprs es ≤ k :=
  highest_le rfl rankOfExprs_cons hk h

lemma rankOfRows_le {k : Nat} (hk : 1 ≤ k) {rs : List Row} (h : ∀ r ∈ rs, rankOfExprs r ≤ k) :
    rankOfRows rs ≤ k :=
  highest_le rfl rankOfRows_cons hk h

lemma one_le_rankOfConditions (cs : List Condition) : 1 ≤ rankOfConditions cs := by
  cases cs with
  | nil => exact Nat.le_refl 1
  | cons c cs => exact Nat.le_trans c.one_le_rank (Nat.le_max_left _ _)

lemma one_le_rankOfRows (rs : List Row) : 1 ≤ rankOfRows rs := by
  cases rs with
  | nil => exact Nat.le_refl 1
  | cons r rs => exact Nat.le_trans (one_le_rankOfExprs r) (Nat.le_max_left _ _)

/-- A chain along which the rank goes down is no longer than the rank of its first member. -/
lemma length_lt_rank_of_isChain {α : Type} {r : α → α → Prop} {rank : α → Nat}
    (hlt : ∀ a b, r a b → rank b < rank a) (hpos : ∀ a, 1 ≤ rank a) :
    ∀ {a : α} {as : List α}, (a :: as).IsChain r → as.length < rank a
  | a, [], _ => hpos a
  | a, b :: as, h => by
    obtain ⟨hab, hrest⟩ := List.isChain_cons_cons.mp h
    have hstep := hlt a b hab
    have hlength := length_lt_rank_of_isChain hlt hpos hrest
    rw [List.length_cons]
    omega

/-! ### Queries -/

namespace Select

/-- A bound of the ranks of all parts of a query. -/
structure PartsWithin (q : Select) (k : Nat) : Prop where
  with? : rankOfWith q.with? ≤ k
  distinct? : rankOfDistinct q.distinct? ≤ k
  fields : rankOfFields q.fields ≤ k
  tables : rankOfTables q.tables ≤ k
  filter? : rankOfFilter q.filter? ≤ k
  groupBy : rankOfExprs q.groupBy ≤ k
  having? : rankOfFilter q.having? ≤ k
  setOps : rankOfSetOps q.setOps ≤ k
  orderBy : rankOfOrder q.orderBy ≤ k

lemma rank_le_iff {q : Select} {k : Nat} :
    q.rank ≤ 2 + (if q.limit?.isSome then 1 else 0) + k ↔ q.PartsWithin k := by
  have hrank : q.rank = 2 + (if q.limit?.isSome then 1 else 0) +
      max (rankOfWith q.with?) (max (rankOfDistinct q.distinct?) (max (rankOfFields q.fields)
        (max (rankOfTables q.tables) (max (rankOfFilter q.filter?) (max (rankOfExprs q.groupBy)
          (max (rankOfFilter q.having?)
            (max (rankOfSetOps q.setOps) (rankOfOrder q.orderBy)))))))) := by
    cases q
    rfl
  rw [hrank, Nat.add_le_add_iff_left]
  simp only [Nat.max_le]
  exact ⟨fun ⟨a, b, c, d, e, f, g, h, i⟩ => ⟨a, b, c, d, e, f, g, h, i⟩,
    fun ⟨a, b, c, d, e, f, g, h, i⟩ => ⟨a, b, c, d, e, f, g, h, i⟩⟩

lemma PartsWithin.mono {q : Select} {k l : Nat} (h : q.PartsWithin k) (hkl : k ≤ l) :
    q.PartsWithin l :=
  rank_le_iff.mp (Nat.le_trans (rank_le_iff.mpr h) (Nat.add_le_add_left hkl _))

/-- The parts of a query are two steps below it. -/
lemma partsWithin_of_rank_le {q : Select} {k : Nat} (h : q.rank ≤ 2 + k) : q.PartsWithin k :=
  rank_le_iff.mp (by omega)

lemma rank_le_of_partsWithin {q : Select} {k : Nat} (h : q.PartsWithin k) : q.rank ≤ 3 + k := by
  have := rank_le_iff.mpr h
  split at this <;> omega

/-- A query without a limit is two steps above its parts. -/
lemma rank_le_of_unlimited {q : Select} {k : Nat} (hlimit : q.limit? = none)
    (h : q.PartsWithin k) : q.rank ≤ 2 + k := by
  have := rank_le_iff.mpr h
  rwa [hlimit, Option.isSome_none, if_neg Bool.false_ne_true] at this

lemma one_lt_rank (q : Select) : 1 < q.rank := by
  cases q
  exact Nat.lt_of_lt_of_le (by decide) (Nat.le_trans (Nat.le_add_right 2 _) (Nat.le_add_right _ _))

/-- A query that is limited goes one step further. -/
lemma rank_withoutLimit_lt {q : Select} {l : Limit} (h : q.limited? = some l) :
    Select.rank { q with limit? := none } < q.rank := by
  obtain ⟨k, hk⟩ := Nat.exists_eq_add_of_lt q.one_lt_rank
  -- a limit counts for three, which is why the query without it is less high
  obtain ⟨hl, -⟩ := Option.filter_eq_some_iff.mp h
  have hsome : q.limit?.isSome = true := by
    rw [hl]
    rfl
  -- the limit is none of the parts
  have hparts : ∀ k, q.PartsWithin k → PartsWithin { q with limit? := none } k :=
    fun _ ⟨a, b, c, d, e, f, g, h, i⟩ => ⟨a, b, c, d, e, f, g, h, i⟩
  have hbelow : q.rank = 3 + (q.rank - 3) := by
    have hpos := (partsWithin_of_rank_le (Nat.le_of_eq (show q.rank = 2 + k by omega))).filter?
    have hone : 1 ≤ rankOfFilter q.filter? := by
      cases q.filter? with
      | none => exact Nat.le_refl 1
      | some c => exact c.one_le_rank
    omega
  have hwithin : q.PartsWithin (q.rank - 3) := by
    refine rank_le_iff.mp ?_
    rw [hsome, if_pos rfl]
    omega
  have := rank_le_of_unlimited (q := { q with limit? := none }) rfl (hparts _ hwithin)
  omega

/-! ### Queries that yield given rows -/

/-- The ranks of the parts of a query that only selects from tables. -/
lemma partsWithin_plain {fields : List SelectField} {tables : List Table}
    {filter? : Option Condition} {setOps : List SetOperation} {k : Nat} (hk : 1 ≤ k)
    (hfields : rankOfFields fields ≤ k) (htables : rankOfTables tables ≤ k)
    (hfilter : rankOfFilter filter? ≤ k) (hsetOps : rankOfSetOps setOps ≤ k) :
    PartsWithin { fields, tables, filter?, setOps } k :=
  ⟨hk, hk, hfields, htables, hfilter, hk, hk, hsetOps, hk⟩

lemma foldl_fieldAs {α : Type} (f : α → Expr × Name) (as : List α) (fields : List SelectField) :
    as.foldl (fun q a => fieldAs q (f a).1 (f a).2) { fields } =
      { fields := fields ++ as.map fun a => ⟨(f a).1, some (f a).2⟩ } := by
  induction as generalizing fields with
  | nil => simp
  | cons a as ih =>
    change as.foldl (fun q a => fieldAs q (f a).1 (f a).2)
      { fields := fields ++ [⟨(f a).1, some (f a).2⟩] } = _
    rw [ih, List.append_assoc, List.map_cons, List.singleton_append]

lemma addFields_eq (es : List Expr) (fields : List SelectField) :
    addFields { fields } es = { fields := fields ++ es.map fun e => ⟨e, none⟩ } := by
  induction es generalizing fields with
  | nil => simp [addFields]
  | cons e es ih =>
    change addFields { fields := fields ++ [⟨e, none⟩] } es = _
    rw [ih, List.append_assoc, List.map_cons, List.singleton_append]

lemma unionAll_eq (fields : List SelectField) (tables : List Table) (filter? : Option Condition)
    (qs : List Select) (setOps : List SetOperation) :
    unionAll { fields, tables, filter?, setOps } qs =
      { fields, tables, filter?, setOps := setOps ++ qs.map fun r => ⟨.union, true, r⟩ } := by
  induction qs generalizing setOps with
  | nil => simp [unionAll]
  | cons r rs ih =>
    change unionAll { fields, tables, filter?, setOps := setOps ++ [⟨.union, true, r⟩] } rs = _
    rw [ih, List.append_assoc, List.map_cons, List.singleton_append]

lemma ofRow_eq (r : Row) :
    ofRow r = { fields := r.map fun e => ⟨e, none⟩, tables := [.dual] } := by
  change table (addFields { fields := [] } r) .dual = _
  rw [addFields_eq]
  rfl

lemma ofNamedRow_eq (r : Row) (columns : List Name) :
    ofNamedRow r columns =
      { fields := (r.zip columns).map fun (e, c) => ⟨e, some c⟩, tables := [.dual] } := by
  change table ((r.zip columns).foldl (fun q p => fieldAs q p.1 p.2) { fields := [] }) .dual = _
  rw [foldl_fieldAs fun p : Expr × Name => p]
  rfl

lemma withoutRows_eq (columns : List Name) :
    withoutRows columns =
      { fields := columns.map fun c => ⟨.literal .null, some c⟩
        tables := [.dual]
        filter? := some (.equals (.number 1) (.number 0)) } := by
  change filter (table (columns.foldl (fun q c => fieldAs q (.literal .null) c)
    { fields := [] }) .dual) _ = _
  rw [foldl_fieldAs fun c : Name => (Expr.literal .null, c)]
  rfl

lemma rank_ofRow_le (r : Row) : (ofRow r).rank ≤ 2 + rankOfExprs r := by
  have hk := one_le_rankOfExprs r
  rw [ofRow_eq]
  refine rank_le_of_unlimited rfl (partsWithin_plain hk ?_ hk hk hk)
  exact rankOfFields_le hk (List.forall_mem_map.mpr fun e he => rank_le_rankOfExprs he)

/-- Queries of one row each, all in one. -/
lemma rankOfSetOps_rows_le {rs : List Row} {k : Nat} (h : ∀ r ∈ rs, rankOfExprs r ≤ k) :
    rankOfSetOps ((rs.map ofRow).map fun q => ⟨.union, true, q⟩) ≤ 2 + k := by
  refine rankOfSetOps_le (by omega) (List.forall_mem_map.mpr (List.forall_mem_map.mpr ?_))
  intro r hr
  have := rank_ofRow_le r
  have := h r hr
  change (ofRow r).rank ≤ 2 + k
  omega

lemma rank_ofRow_unionAll_le {r : Row} {rs : List Row} {k : Nat}
    (h : ∀ r' ∈ r :: rs, rankOfExprs r' ≤ k) :
    ((ofRow r).unionAll (rs.map ofRow)).rank ≤ 4 + k := by
  obtain ⟨hr, hrs⟩ := List.forall_mem_cons.mp h
  rw [ofRow_eq, unionAll_eq, show 4 + k = 2 + (2 + k) by omega]
  refine rank_le_of_unlimited rfl (partsWithin_plain (by omega) ?_ ?_ ?_ (rankOfSetOps_rows_le hrs))
  · refine rankOfFields_le (by omega) (List.forall_mem_map.mpr fun e he => ?_)
    have : e.rank ≤ rankOfExprs r := rank_le_rankOfExprs he
    change e.rank ≤ 2 + k
    omega
  · exact Nat.le_trans (by decide) (Nat.le_add_right 2 k)
  · exact Nat.le_trans (by decide) (Nat.le_add_right 2 k)

lemma partsWithin_withoutRows (columns : List Name) : (withoutRows columns).PartsWithin 2 := by
  rw [withoutRows_eq]
  refine partsWithin_plain (by decide) ?_ (by decide) (by decide) (by decide)
  exact rankOfFields_le (by decide) (List.forall_mem_map.mpr fun c _ => Nat.le_succ 1)

/-- Rows that are written out are worth the query that yields them. -/
lemma rank_ofRows_lt (rows : List Row) (columns : List Name) :
    (ofRows rows columns).rank < 6 + rankOfRows rows := by
  cases rows with
  | nil =>
    have := rank_le_of_partsWithin (partsWithin_withoutRows columns)
    have := one_le_rankOfRows []
    rw [ofRows]
    omega
  | cons r rs =>
    have hrows : ∀ r' ∈ rs, rankOfExprs r' ≤ rankOfRows (r :: rs) := fun r' hr' =>
      rankOfExprs_le_rankOfRows (List.mem_cons_of_mem r hr')
    have hk := one_le_rankOfRows (r :: rs)
    rw [ofRows, ofNamedRow_eq, unionAll_eq]
    -- the first row names the columns, the other rows are further operands
    refine Nat.lt_of_le_of_lt (rank_le_of_unlimited (k := 2 + rankOfRows (r :: rs)) rfl
      (partsWithin_plain (by omega) ?_ ?_ ?_ (rankOfSetOps_rows_le hrows))) (by omega)
    · refine rankOfFields_le (by omega) (List.forall_mem_map.mpr fun p hp => ?_)
      have he : p.1.rank ≤ rankOfExprs r := rank_le_rankOfExprs (List.of_mem_zip hp).1
      have hr : rankOfExprs r ≤ rankOfRows (r :: rs) :=
        rankOfExprs_le_rankOfRows List.mem_cons_self
      change p.1.rank ≤ _
      omega
    · exact Nat.le_trans (by decide) (Nat.le_add_right 2 _)
    · exact Nat.le_trans (by decide) (Nat.le_add_right 2 _)

/-- A query whose columns are renamed has a lower rank than the table it stands for. -/
lemma rank_renamed_le (q : Select) (table : Name) (columns : List Name) :
    (q.renamed table columns).rank ≤ 5 + q.rank := by
  have hk := q.one_lt_rank
  -- the rows come behind a query without rows, which only names the columns
  have hrows : Select.rank
      { fields := [⟨.asterisk none, none⟩], tables := [.derived q (.ofName table)] } ≤
        3 + q.rank := by
    refine Nat.le_trans (rank_le_of_unlimited (k := 1 + q.rank) rfl
      (partsWithin_plain (by omega) ?_ ?_ ?_ ?_)) (by omega)
    · exact Nat.le_add_right 1 _
    · exact Nat.max_le.mpr ⟨Nat.le_refl _, Nat.le_add_right 1 _⟩
    · exact Nat.le_add_right 1 _
    · exact Nat.le_add_right 1 _
  obtain ⟨-, -, hfields, htables, hfilter, -, -, -, -⟩ :=
    (partsWithin_withoutRows columns).mono (show 2 ≤ 3 + q.rank by omega)
  change ((withoutRows columns).unionAll
    [{ fields := [⟨.asterisk none, none⟩], tables := [.derived q (.ofName table)] }]).rank ≤ _
  rw [withoutRows_eq] at hfields htables hfilter ⊢
  rw [unionAll_eq]
  refine Nat.le_trans (rank_le_of_unlimited (k := 3 + q.rank) rfl
    (partsWithin_plain (by omega) hfields htables hfilter ?_)) (by omega)
  exact Nat.max_le.mpr ⟨hrows, Nat.le_trans (by decide) (Nat.le_add_right 3 _)⟩

end Select

lemma rankOfRows_unnestRows_le (elements : List Expr) (ordinality : Bool) :
    rankOfRows (unnestRows elements ordinality) ≤ rankOfExprs elements := by
  have hk := one_le_rankOfExprs elements
  refine rankOfRows_le hk fun row hrow => ?_
  obtain ⟨i, hi, rfl⟩ := List.mem_mapIdx.mp hrow
  have he : elements[i].rank ≤ rankOfExprs elements :=
    rank_le_rankOfExprs (List.getElem_mem hi)
  cases ordinality with
  | false => exact rankOfExprs_le hk (List.forall_mem_singleton.mpr he)
  | true =>
    exact rankOfExprs_le hk (List.forall_mem_cons.mpr ⟨he, List.forall_mem_singleton.mpr hk⟩)

/-! ### Conditions over queries -/

namespace Condition

/-- A row in a query is worth the query of its equal rows. -/
lemma rank_of_expandRowInSelect {row : Row} {q : Select} {negate : Bool} {c : Condition}
    (h : expandRowInSelect row q negate = .ok c) : c.rank < (rowInSelect row q negate).rank := by
  have hk := q.one_lt_rank
  rw [expandRowInSelect] at h
  split at h
  · cases h
  cases h
  -- one comparison for every element of the row, each no higher than the element
  have hmatching : (all ((row.zip (numberedColumns row.length)).map fun (e, c) =>
      .equals (.column (Name.ofText "t" ++ c)) e)).rank ≤ 1 + rankOfExprs row + 1 := by
    refine rank_all_le (by omega) (List.forall_mem_map.mpr fun p hp => ?_)
    have he : p.1.rank ≤ rankOfExprs row := rank_le_rankOfExprs (List.of_mem_zip hp).1
    have := one_le_rankOfExprs row
    change 1 + max 1 p.1.rank ≤ _
    omega
  change 1 + Select.rank
      { fields := [⟨.number 1, none⟩]
        tables := [.derived q ⟨Name.ofText "t", numberedColumns row.length⟩]
        filter? := some _ } < 10 + max (rankOfExprs row) q.rank
  refine Nat.lt_of_le_of_lt (Nat.add_le_add_left
    (Select.rank_le_of_unlimited (k := 6 + max (rankOfExprs row) q.rank) rfl
      (Select.partsWithin_plain (by omega) ?_ ?_ ?_ ?_)) 1) (by omega)
  · exact Nat.le_trans (by decide) (Nat.le_add_right 6 _)
  · refine Nat.max_le.mpr ⟨?_, Nat.le_trans (by decide) (Nat.le_add_right 6 _)⟩
    change (if (numberedColumns row.length).isEmpty then 1 else 6) + q.rank ≤ _
    split <;> omega
  · refine Nat.le_trans hmatching ?_
    omega
  · exact Nat.le_trans (by decide) (Nat.le_add_right 6 _)

/-- Conditions that are all asked for are one step above their parts. -/
lemma rankOfFilter_joined_le {filter? : Option Condition} {others : List Condition} {k : Nat}
    (hk : 1 ≤ k) (hfilter : rankOfFilter filter? ≤ k) (hothers : ∀ c ∈ others, c.rank ≤ k) :
    rankOfFilter (joined filter? others) ≤ k + 1 := by
  rw [joined]
  split
  · omega
  · refine rank_all_le hk (List.forall_mem_append.mpr ⟨fun c hc => ?_, hothers⟩)
    rw [Option.mem_toList.mp hc] at hfilter
    exact hfilter

end Condition

/-! ### Joins -/

namespace Join

lemma rank_columnsEqual_le {cs : List Condition}
    (h : ∀ c ∈ cs, ∃ a b, c = .equals (.column a) (.column b)) : (Condition.all cs).rank ≤ 3 := by
  refine Condition.rank_all_le (k := 2) (by decide) fun c hc => ?_
  obtain ⟨a, b, rfl⟩ := h c hc
  exact Nat.le_refl 2

lemma rank_naturalCondition_le (j : Join) : j.naturalCondition.rank ≤ 3 :=
  rank_columnsEqual_le (List.forall_mem_map.mpr fun p _ => ⟨p.1, p.2, rfl⟩)

lemma rank_usingCondition_le (j : Join) : j.usingCondition.rank ≤ 3 :=
  rank_columnsEqual_le (List.forall_mem_map.mpr fun _ _ => ⟨_, _, rfl⟩)

lemma rank_condition_le (j : Join) : j.condition.rank ≤ max 3 (rankOfFilter j.on?) := by
  have hnatural := j.rank_naturalCondition_le
  have husing := j.rank_usingCondition_le
  have hon : (j.on?.getD .always).rank = rankOfFilter j.on? := by cases j.on? <;> rfl
  rw [condition]
  split
  · omega
  · split <;> omega

lemma rank_eq (j : Join) :
    (Table.join j).rank = 6 + max j.left.rank (max j.right.rank (rankOfFilter j.on?)) := by
  cases j
  rfl

/-- What takes over a semi or anti join has no higher rank. -/
lemma rank_toExists_le (j : Join) : j.toExists.rank ≤ (Table.join j).rank := by
  have hcondition := j.rank_condition_le
  rw [rank_eq]
  change 1 + Select.rank
      { fields := [⟨.number 1, none⟩], tables := [j.right], filter? := some j.condition } ≤ _
  refine Nat.le_trans (Nat.add_le_add_left (Select.rank_le_of_unlimited
    (k := 3 + max j.right.rank (rankOfFilter j.on?)) rfl
      (Select.partsWithin_plain (by omega) ?_ ?_ ?_ ?_)) 1) (by omega)
  · exact Nat.le_trans (by decide) (Nat.le_add_right 3 _)
  · refine Nat.max_le.mpr ⟨by omega, Nat.le_trans (by decide) (Nat.le_add_right 3 _)⟩
  · change j.condition.rank ≤ _
    omega
  · exact Nat.le_trans (by decide) (Nat.le_add_right 3 _)

end Join

namespace Table

lemma one_le_rank (t : Table) : 1 ≤ t.rank := by
  cases t with
  | named | dual => exact Nat.le_refl 1
  | derived q a =>
    have := q.one_lt_rank
    cases a
    exact Nat.le_trans (Nat.le_of_lt this) (Nat.le_add_left _ _)
  | join j =>
    rw [Join.rank_eq]
    omega
  | _ => exact Nat.le_trans (by decide) (Nat.le_add_right _ _)

lemma rank_derived (q : Select) (called : TableAlias) :
    (derived q called).rank = (if called.columns.isEmpty then 1 else 6) + q.rank := by
  cases called
  rfl

lemma rank_values (rows : List Row) (called : TableAlias) :
    (values rows called).rank = 6 + rankOfRows rows := rfl

lemma rank_unnest (elements : List Expr) (called : TableAlias) (ordinality : Bool) :
    (unnest elements called ordinality).rank = 6 + rankOfExprs elements := rfl

lemma rank_rowsFrom (functions : List Call) (called : TableAlias) :
    (rowsFrom functions called).rank = 1 + rankOfCalls functions := rfl

lemma rank_lateral (t : Table) : (lateral t).rank = 1 + t.rank := rfl

lemma rank_withoutLateral_le (t : Table) : t.withoutLateral.rank ≤ t.rank := by
  cases t with
  | lateral t => exact Nat.le_add_left _ 1
  | _ => exact Nat.le_refl _

lemma rank_left_lt (j : Join) : j.left.rank + 6 ≤ (Table.join j).rank := by
  rw [Join.rank_eq]
  omega

lemma rank_right_lt (j : Join) : j.right.rank + 6 ≤ (Table.join j).rank := by
  rw [Join.rank_eq]
  omega

/-- What takes over the semi and anti joins of a table has no higher rank. -/
lemma rank_absorbed_le (d : Dialect) : ∀ (t : Table), ∀ c ∈ t.absorbed d, c.rank ≤ t.rank
  | .join ⟨l, r, type, on?, using_⟩, c, hc => by
    have hleft (c) (hc : c ∈ l.absorbed d) :=
      Nat.le_trans (rank_absorbed_le d l c hc) (Nat.le_of_add_right_le
        (rank_left_lt ⟨l, r, type, on?, using_⟩))
    have hright (c) (hc : c ∈ r.absorbed d) :=
      Nat.le_trans (rank_absorbed_le d r c hc) (Nat.le_of_add_right_le
        (rank_right_lt ⟨l, r, type, on?, using_⟩))
    rw [absorbed] at hc
    -- joins of other kinds take nothing out; those taken out come before what is on their left
    split at hc
    · cases hc
    · split at hc
      · rcases List.mem_cons.mp hc with rfl | hc
        · exact Join.rank_toExists_le _
        · exact hleft c hc
      · rcases List.mem_append.mp hc with hc | hc
        · exact hleft c hc
        · exact hright c hc
  | .lateral t, c, hc => by
    rw [absorbed] at hc
    exact Nat.le_trans (rank_absorbed_le d t c hc) (Nat.le_add_left _ 1)
  | .named _, c, hc | .derived _ _, c, hc | .values _ _, c, hc | .unnest _ _ _, c, hc
  | .rowsFrom _ _, c, hc | .dual, c, hc => by simp [absorbed] at hc

end Table

/-- The condition of a query has no higher rank than the query, whatever joins it takes over. -/
lemma Writers.rankOfFilter_rowCondition_le (d : Dialect) {q : Select} {k : Nat}
    (h : q.PartsWithin k) : rankOfFilter (rowCondition d q) ≤ k + 1 := by
  have hk : 1 ≤ k := Nat.le_trans (one_le_rankOfExprs _) h.groupBy
  refine Condition.rankOfFilter_joined_le hk h.filter? fun c hc => ?_
  obtain ⟨t, ht, hct⟩ := List.mem_flatMap.mp hc
  exact Nat.le_trans (t.rank_absorbed_le d c hct)
    (Nat.le_trans (rank_le_rankOfTables ht) h.tables)

end Polysql

import Mathlib.Data.List.Basic
import Polysql.Proofs.Joining.Rows
/-!
Semi and anti joins that a condition takes over. A query without such joins keeps the left side of
each and asks in its condition for the rows of the other side (`Select.hoisted`). It has the rows of
the query with the joins, provided that none of them stands on the right side of an outer join:
there the condition drops rows that the outer join would complete by NULLs (`Select.rows_hoisted`).
-/

namespace Polysql

/-! ### Queries without semi and anti joins -/

namespace JoinType

/-- The joins of rows side by side, which every engine has. -/
def plain : List JoinType :=
  [inner, cross, left]

/-- The joins of rows side by side, and those that select rows of their left side. -/
def selecting : List JoinType :=
  leftSemi :: leftAnti :: plain

lemma isSemiOrAnti_of_mem_plain {type : JoinType} (h : type ∈ plain) :
    type.isSemiOrAnti = false := by
  revert h
  cases type <;> decide

lemma mem_plain {type : JoinType} (h : type ∈ selecting) (h' : ¬type.isSemiOrAnti = true) :
    type ∈ plain := by
  revert h h'
  cases type <;> decide

end JoinType

namespace Table

/-- The table is joined from named ones by joins of some types, on conditions. -/
inductive JoinedBy (types : List JoinType) : Table → Prop
  | named (t : NamedTable) : JoinedBy types (.named t)
  | join {l r : Table} {type : JoinType} {on? : Option Condition} (hl : l.JoinedBy types)
      (hr : r.JoinedBy types) (htype : type ∈ types) : JoinedBy types (.join ⟨l, r, type, on?, []⟩)

/-- A table without its semi and anti joins: of each, the left side is left. -/
def kept : Table → Table
  | .join ⟨l, r, type, on?, using_⟩ =>
    if type.isSemiOrAnti then l.kept else .join ⟨l.kept, r.kept, type, on?, using_⟩
  | t => t

/-- The query for the rows that meet the condition of a join. -/
def matching (t : Table) (on? : Option Condition) (tests : List Condition) : Select where
  fields := [⟨.number 1, none⟩]
  tables := [t]
  filter? := Condition.joined (some (on?.getD .always)) tests

/-- The conditions in the place of the semi and anti joins of a table. Where the right side of one
has such joins itself, the query on it has further conditions in their place. -/
def tests : Table → List Condition
  | .join ⟨l, r, type, on?, _⟩ =>
    if type.isSemiOrAnti then
      .hasRows (r.kept.matching on? r.tests) (type == .leftAnti) :: l.tests
    else l.tests ++ r.tests
  | _ => []

/-- The right side of every outer join is free of semi and anti joins. -/
def OuterClear : Table → Prop
  | .join ⟨l, r, type, _, _⟩ =>
    l.OuterClear ∧ r.OuterClear ∧ (type = .left → r.JoinedBy JoinType.plain)
  | _ => True

end Table

/-- A query with conditions in the place of the semi and anti joins of its tables. -/
def Select.hoisted (q : Select) : Select :=
  { q with
    tables := q.tables.map Table.kept
    filter? := Condition.joined q.filter? (q.tables.flatMap Table.tests) }

/-! ### Names -/

namespace Bindings

/-- Some columns have the same values. -/
def AgreeOn (columns : List Name) (a b : Bindings) : Prop :=
  ∀ n ∈ columns, a n = b n

/-- Exactly some columns have values. -/
def Has (columns : List Name) (row : Bindings) : Prop :=
  ∀ n, (row n).isSome ↔ n ∈ columns

variable {columns others : List Name} {a b c : Bindings}

lemma AgreeOn.mono (h : AgreeOn columns a b) (hsub : others ⊆ columns) : AgreeOn others a b :=
  fun n hn => h n (hsub hn)

lemma AgreeOn.or_left (h : AgreeOn columns a b) (c : Bindings) :
    AgreeOn columns (c.or a) (c.or b) :=
  fun n hn => congrArg (c n).or (h n hn)

lemma AgreeOn.append (h : AgreeOn columns a b) (h' : AgreeOn others a b) :
    AgreeOn (columns ++ others) a b :=
  fun n hn => (List.mem_append.mp hn).elim (h n) (h' n)

lemma has_ofRow (columns : List Name) (value : Name → Value) :
    (ofRow columns value).Has columns := by
  intro n
  rw [ofRow]
  split <;> simp_all

lemma Has.or (ha : a.Has columns) (hb : b.Has others) : (a.or b).Has (columns ++ others) := by
  intro n
  rw [Bindings.or, Option.isSome_or, Bool.or_eq_true, ha n, hb n, List.mem_append]

/-- The columns of a row hide those outside of it. -/
lemma Has.or_agreeOn (ha : a.Has columns) (b : Bindings) : AgreeOn columns (a.or b) a :=
  fun n hn => Option.or_of_isSome ((ha n).mpr hn)

/-- A row has no values for the columns of another that shares none with it. -/
lemma Has.or_agreeOn_right (ha : a.Has columns) (hdisj : columns.Disjoint others) (b : Bindings) :
    AgreeOn others (a.or b) b := by
  intro n hn
  have hnone : a n = none := by
    rw [← Option.not_isSome_iff_eq_none, ha n]
    exact fun h => hdisj h hn
  rw [Bindings.or, hnone, Option.none_or]

end Bindings

/-- The truth of a condition depends on some columns only. -/
def Condition.Reads (db : Database) (columns : List Name) (c : Condition) : Prop :=
  ∀ a b : Bindings, a.AgreeOn columns b → c.truth db a = c.truth db b

/-- The two sides of a join have no name in common, and its condition refers to their columns. -/
def Table.WellScoped (db : Database) : Table → Prop
  | .join ⟨l, r, _, on?, _⟩ =>
    l.WellScoped db ∧ r.WellScoped db ∧ (l.columns db).Disjoint (r.columns db) ∧
      ∀ c ∈ on?, c.Reads db (l.columns db ++ r.columns db)
  | _ => True

/-- The tables of a query have no name in common, and neither have the sides of their joins. -/
def Select.WellScoped (db : Database) (q : Select) : Prop :=
  (∀ t ∈ q.tables, t.WellScoped db) ∧
    q.tables.Pairwise fun t u => (t.columns db).Disjoint (u.columns db)

section

variable {db : Database} {columns : List Name} {a b : Bindings}

/-- An equality of two columns depends on these. -/
lemma Condition.reads_equals {m n : Name} (hm : m ∈ columns) (hn : n ∈ columns) :
    (equals (.column m) (.column n)).Reads db columns := by
  intro a b hab
  change ((equals _ _).eval a).toOption.join = ((equals _ _).eval b).toOption.join
  simp only [equals, Expr.column, Condition.eval, Expr.eval, hab m hm, hab n hn]

lemma Condition.Reads.isMet_eq {c : Condition} (h : c.Reads db columns)
    (hab : a.AgreeOn columns b) : c.isMet db a = c.isMet db b :=
  congrArg (· == some true) (h a b hab)

lemma Condition.Reads.all_isMet_eq {c? : Option Condition} (h : ∀ c ∈ c?, c.Reads db columns)
    (hab : a.AgreeOn columns b) : c?.all (isMet db a) = c?.all (isMet db b) := by
  cases c? with
  | none => rfl
  | some c => exact (h c rfl).isMet_eq hab

end

/-! ### The columns of rows -/

section

variable {db : Database} {b : Bindings}

lemma JoinType.has_of_mem_rows {type : JoinType} {left right : List Bindings}
    {meets : Bindings → Bindings → Bool} {ls rs : List Name}
    (hl : ∀ a ∈ left, a.Has ls) (hr : ∀ c ∈ right, c.Has rs) :
    ∀ row ∈ type.rows (.nulls rs) left right meets,
      row.Has (if type.isSemiOrAnti then ls else ls ++ rs) := by
  intro row hrow
  -- five types of joins have rows here, the others yield none
  cases type <;> simp only [rows, isSemiOrAnti] at hrow ⊢
  case inner =>
    obtain ⟨a, ha, hrow⟩ := List.mem_flatMap.mp hrow
    obtain ⟨c, hc, rfl⟩ := List.mem_map.mp hrow
    exact (hl a ha).or (hr c (List.mem_filter.mp hc).1)
  case cross =>
    obtain ⟨a, ha, hrow⟩ := List.mem_flatMap.mp hrow
    obtain ⟨c, hc, rfl⟩ := List.mem_map.mp hrow
    exact (hl a ha).or (hr c hc)
  case left =>
    obtain ⟨a, ha, hrow⟩ := List.mem_flatMap.mp hrow
    split at hrow
    · rw [List.mem_singleton.mp hrow]
      exact (hl a ha).or (Bindings.has_ofRow rs _)
    · obtain ⟨c, hc, rfl⟩ := List.mem_map.mp hrow
      exact (hl a ha).or (hr c (List.mem_filter.mp hc).1)
  case leftSemi => exact hl row (List.mem_filter.mp hrow).1
  case leftAnti => exact hl row (List.mem_filter.mp hrow).1
  all_goals cases hrow

/-- The rows of a join depend on what its condition says of the rows of both sides. -/
lemma JoinType.rows_congr {type : JoinType} {nulls : Bindings} {left right : List Bindings}
    {meets meets' : Bindings → Bindings → Bool}
    (h : ∀ a ∈ left, ∀ c ∈ right, meets a c = meets' a c) :
    type.rows nulls left right meets = type.rows nulls left right meets' := by
  have hfilter (a) (ha : a ∈ left) : right.filter (meets a) = right.filter (meets' a) :=
    List.filter_congr (h a ha)
  cases type with
  | inner => exact List.flatMap_congr fun a ha => by rw [hfilter a ha]
  | left => exact List.flatMap_congr fun a ha => by rw [hfilter a ha]
  | leftSemi => exact List.filter_congr fun a ha => by rw [hfilter a ha]
  | leftAnti => exact List.filter_congr fun a ha => by rw [hfilter a ha]
  | _ => rfl

/-- The rows of a table have values for its columns, and for no others. -/
lemma Table.has_of_mem_rows : ∀ t : Table, ∀ row ∈ t.rows db b, row.Has (t.columns db)
  | .named t, row, hrow => by
    obtain ⟨value, -, rfl⟩ := List.mem_map.mp hrow
    exact Bindings.has_ofRow _ value
  | .join ⟨l, r, type, on?, using_⟩, row, hrow =>
    JoinType.has_of_mem_rows (has_of_mem_rows l) (has_of_mem_rows r) row hrow
  | .derived _ _, _, hrow | .values _ _, _, hrow | .unnest _ _ _, _, hrow
  | .rowsFrom _ _, _, hrow | .lateral _, _, hrow | .dual, _, hrow => nomatch hrow

/-- The rows of a table do not depend on what is outside: no condition in it looks there. -/
lemma Table.rows_congr (b b' : Bindings) :
    ∀ t : Table, t.WellScoped db → t.rows db b = t.rows db b'
  | .join ⟨l, r, type, on?, using_⟩, ⟨hl, hr, _, hon⟩ => by
    rw [rows_join, rows_join, rows_congr b b' l hl, rows_congr b b' r hr]
    refine JoinType.rows_congr fun a ha c hc => Condition.Reads.all_isMet_eq hon ?_
    have hac := (l.has_of_mem_rows a ha).or (r.has_of_mem_rows c hc)
    intro n hn
    rw [hac.or_agreeOn b n hn, hac.or_agreeOn b' n hn]
  | .named _, _ | .derived _ _, _ | .values _ _, _ | .unnest _ _ _, _ | .rowsFrom _ _, _
  | .lateral _, _ | .dual, _ => rfl

/-! ### Tables that are kept -/

/-- What is left of a table has its columns. -/
@[simp] lemma Table.columns_kept : ∀ t : Table, t.kept.columns db = t.columns db
  | .join ⟨l, r, type, on?, using_⟩ => by
    rw [kept, columns]
    split
    · exact columns_kept l
    next h => rw [columns, if_neg h, columns_kept l, columns_kept r]
  | .named _ | .derived _ _ | .values _ _ | .unnest _ _ _ | .rowsFrom _ _ | .lateral _
  | .dual => rfl

lemma Table.has_of_mem_rows_kept {t : Table} {row : Bindings} (h : row ∈ t.kept.rows db b) :
    row.Has (t.columns db) := by
  rw [← columns_kept t]
  exact has_of_mem_rows t.kept row h

lemma Table.WellScoped.kept : ∀ {t : Table}, t.WellScoped db → t.kept.WellScoped db
  | .join ⟨l, r, type, on?, using_⟩, ⟨hl, hr, hdisj, hon⟩ => by
    rw [Table.kept]
    split
    · exact WellScoped.kept hl
    · refine ⟨WellScoped.kept hl, WellScoped.kept hr, ?_⟩
      rw [columns_kept, columns_kept]
      exact ⟨hdisj, hon⟩
  | .named _, _ | .derived _ _, _ | .values _ _, _ | .unnest _ _ _, _ | .rowsFrom _ _, _
  | .lateral _, _ | .dual, _ => trivial

/-- No semi or anti join is left. -/
lemma Table.JoinedBy.kept {t : Table} (h : t.JoinedBy JoinType.selecting) :
    t.kept.JoinedBy JoinType.plain := by
  induction h with
  | named t => exact .named t
  | @join l r type on? hl hr htype ihl ihr =>
    rw [Table.kept]
    split
    · exact ihl
    next h => exact .join ihl ihr (JoinType.mem_plain htype h)

/-- A table without semi and anti joins is left as it is, and nothing takes their place. -/
lemma Table.JoinedBy.kept_of_plain {t : Table} (h : t.JoinedBy JoinType.plain) :
    t.kept = t ∧ t.tests = [] := by
  induction h with
  | named t => exact ⟨rfl, rfl⟩
  | @join l r type on? hl hr htype ihl ihr =>
    rw [Table.kept, tests, JoinType.isSemiOrAnti_of_mem_plain htype, ihl.1, ihr.1, ihl.2, ihr.2]
    exact ⟨rfl, rfl⟩

/-- The rows that meet the condition of a join. -/
lemma Table.rows_matching (t : Table) (on? : Option Condition) (tests : List Condition) :
    (t.matching on? tests).rows db b = (t.rows db b).filter fun c =>
      on?.all (Condition.isMet db (c.or b)) && tests.all (Condition.isMet db (c.or b)) := by
  rw [Select.rows_eq]
  change (rowsOfTables db [t] b).filter _ = _
  rw [rowsOfTables_singleton]
  refine List.filter_congr fun c _ => ?_
  rw [matching, Condition.isMet_joined]
  cases on? <;> rfl

/-- The conditions in the place of semi and anti joins depend on the columns of the table only. -/
lemma Table.tests_congr (db : Database) : ∀ t : Table, t.WellScoped db → ∀ {a b : Bindings},
    a.AgreeOn (t.columns db) b →
      t.tests.all (Condition.isMet db a) = t.tests.all (Condition.isMet db b)
  | .join ⟨l, r, type, on?, using_⟩, ⟨hl, hr, _, hon⟩, a, b, hab => by
    rw [tests]
    split
    -- the tests of a semi join look for rows on its right, where those of that table come first
    next h =>
      rw [columns, if_pos h] at hab
      have hrows : (r.kept.matching on? r.tests).rows db a =
          (r.kept.matching on? r.tests).rows db b := by
        rw [rows_matching, rows_matching, rows_congr a b _ hr.kept]
        refine List.filter_congr fun c hc => ?_
        have hc := has_of_mem_rows_kept hc
        have hr' : (c.or a).AgreeOn (r.columns db) (c.or b) := fun n hn =>
          (hc.or_agreeOn a n hn).trans (hc.or_agreeOn b n hn).symm
        rw [Condition.Reads.all_isMet_eq hon ((hab.or_left c).append hr'), tests_congr db r hr hr']
      rw [List.all_cons, List.all_cons, tests_congr db l hl hab, Condition.isMet_hasRows,
        Condition.isMet_hasRows, hrows]
      · rfl
      · rfl
    next h =>
      -- the two tables see their own columns only
      rw [columns, if_neg h] at hab
      rw [List.all_append, List.all_append,
        tests_congr db l hl (hab.mono (List.subset_append_left _ _)),
        tests_congr db r hr (hab.mono (List.subset_append_right _ _))]
  | .named _, _, _, _, _ | .derived _ _, _, _, _, _ | .values _ _, _, _, _, _
  | .unnest _ _ _, _, _, _, _ | .rowsFrom _ _, _, _, _, _ | .lateral _, _, _, _, _
  | .dual, _, _, _, _ => rfl

end

/-! ### The same rows -/

section

variable {α β : Type}

/-- What all elements agree on selects all of them or none. -/
lemma filter_of_forall_eq {bs : List β} {p : β → Bool} {x : Bool} (h : ∀ b ∈ bs, p b = x) :
    bs.filter p = if x then bs else [] := by
  cases x with
  | true => exact List.filter_eq_self.mpr h
  | false => exact List.filter_eq_nil_iff.mpr fun b hb => by simp [h b hb]

/-- A selection among the contributions of some elements, which is one among the elements and one
in each contribution. -/
lemma filter_flatMap_of_parts {as : List α} {f g : α → List β} {p : β → Bool} {q : α → Bool}
    (h : ∀ a ∈ as, (f a).filter p = if q a then g a else []) :
    (as.flatMap f).filter p = (as.filter q).flatMap g := by
  induction as with
  | nil => rfl
  | cons a as ih =>
    obtain ⟨ha, has⟩ := List.forall_mem_cons.mp h
    rw [List.flatMap_cons, List.filter_append, ih has, ha, List.filter_cons]
    split <;> rfl

/-- A selection among the rows that begin with a given one. -/
lemma filter_map_or {cs : List Bindings} {a : Bindings} {p q : Bindings → Bool} {x : Bool}
    (h : ∀ c ∈ cs, p (a.or c) = (x && q c)) :
    (cs.map a.or).filter p = if x then (cs.filter q).map a.or else [] := by
  rw [List.filter_map]
  cases x with
  | true => exact congrArg (List.map a.or) (List.filter_congr fun c hc => by simp [h c hc])
  | false =>
    have hnone : cs.filter (p ∘ a.or) = [] :=
      List.filter_eq_nil_iff.mpr fun c hc => by simp [h c hc]
    rw [hnone]
    rfl

end

namespace Table

variable {db : Database} {b a c : Bindings} {l r t : Table} {on? : Option Condition}

/-- The tests of a table are met by a row. -/
def passes (db : Database) (t : Table) (row : Bindings) : Bool :=
  t.tests.all (Condition.isMet db row)

/-- The rows of the right side of a semi or anti join that its `EXISTS` finds. -/
lemma rows_matching_kept (hr : r.WellScoped db) (hdisj : (l.columns db).Disjoint (r.columns db))
    (hon : ∀ c ∈ on?, c.Reads db (l.columns db ++ r.columns db))
    (ih : (r.kept.rows db b).filter (r.passes db) = r.rows db b) (ha : a.Has (l.columns db)) :
    (r.kept.matching on? r.tests).rows db a =
      (r.rows db b).filter fun c => on?.all (Condition.isMet db ((a.or c).or b)) := by
  rw [rows_matching, rows_congr a b _ hr.kept, ← ih, List.filter_filter]
  refine List.filter_congr fun c hc => ?_
  have hc := has_of_mem_rows_kept hc
  have hagree : Bindings.AgreeOn (l.columns db ++ r.columns db) (c.or a) ((a.or c).or b) := by
    refine Bindings.AgreeOn.append (fun n hn => ?_) fun n hn => ?_
    · rw [hc.or_agreeOn_right (fun _ h h' => hdisj h' h) a n hn,
        (ha.or hc).or_agreeOn b n (List.mem_append_left _ hn), ha.or_agreeOn c n hn]
    · rw [hc.or_agreeOn a n hn, (ha.or hc).or_agreeOn b n (List.mem_append_right _ hn),
        ha.or_agreeOn_right hdisj c n hn]
  rw [Condition.Reads.all_isMet_eq hon hagree, tests_congr db r hr (hc.or_agreeOn a)]
  rfl

/-- The tests of two sides, for a row of the left one beside another. -/
lemma tests_append_or (hl : l.WellScoped db) (hr : r.WellScoped db)
    (hdisj : (l.columns db).Disjoint (r.columns db)) (ha : a.Has (l.columns db)) (c : Bindings) :
    (l.tests ++ r.tests).all (Condition.isMet db (a.or c)) = (l.passes db a && r.passes db c) := by
  rw [List.all_append, tests_congr db l hl (ha.or_agreeOn c),
    tests_congr db r hr (ha.or_agreeOn_right hdisj c)]
  rfl

/-- **Semi and anti joins that conditions take over.** The rows of a table are the rows of what is
kept of it that pass its tests. -/
theorem rows_kept (b : Bindings) (h : t.JoinedBy JoinType.selecting) :
    t.WellScoped db → t.OuterClear →
      (t.kept.rows db b).filter (t.passes db) = t.rows db b := by
  induction h with
  | named t => exact fun _ _ => List.filter_eq_self.mpr fun _ _ => rfl
  | @join l r type on? hjl hjr htype ihl ihr =>
    rintro ⟨hl, hr, hdisj, hon⟩ ⟨hcl, hcr, hclear⟩
    have ihl := ihl hl hcl
    have ihr := ihr hr hcr
    have hpair (a) (ha : a ∈ l.kept.rows db b) (c : Bindings) :=
      tests_append_or hl hr hdisj (has_of_mem_rows_kept ha) c
    have hfound (a) (ha : a ∈ l.kept.rows db b) :=
      rows_matching_kept hr hdisj hon ihr (has_of_mem_rows_kept ha)
    rw [rows_join, ← ihl]
    cases type with
    | inner =>
      change (rows db (.join ⟨l.kept, r.kept, .inner, on?, []⟩) b).filter _ = _
      rw [rows_join, ← ihr]
      refine filter_flatMap_of_parts fun a ha => ?_
      rw [List.filter_comm]
      exact filter_map_or fun c _ => hpair a ha c
    | cross =>
      change (rows db (.join ⟨l.kept, r.kept, .cross, on?, []⟩) b).filter _ = _
      rw [rows_join, ← ihr]
      exact filter_flatMap_of_parts fun a ha => filter_map_or fun c _ => hpair a ha c
    | left =>
      obtain ⟨hkept, htests⟩ := (hclear rfl).kept_of_plain
      change (rows db (.join ⟨l.kept, r.kept, .left, on?, []⟩) b).filter _ = _
      rw [rows_join, hkept]
      refine filter_flatMap_of_parts fun a ha => filter_of_forall_eq fun row hrow => ?_
      -- matched or not, the row begins with the one of the left side, which alone is tested
      obtain ⟨c, rfl⟩ : ∃ c, row = a.or c := by
        split at hrow
        · exact ⟨_, List.mem_singleton.mp hrow⟩
        · obtain ⟨c, -, rfl⟩ := List.mem_map.mp hrow
          exact ⟨c, rfl⟩
      have hc : r.passes db c = true := by rw [passes, htests, List.all_nil]
      exact (hpair a ha c).trans (by rw [hc, Bool.and_true])
    | leftSemi =>
      change (l.kept.rows db b).filter _ = List.filter _ _
      rw [List.filter_filter]
      refine List.filter_congr fun a ha => ?_
      rw [← hfound a ha]
      exact congrArg (· && _) (Condition.isMet_hasRows db a rfl false)
    | leftAnti =>
      change (l.kept.rows db b).filter _ = List.filter _ _
      rw [List.filter_filter]
      refine List.filter_congr fun a ha => ?_
      rw [← hfound a ha]
      exact congrArg (· && _) (Condition.isMet_hasRows db a rfl true)
    | _ => exact absurd htype (by decide)

end Table

section

variable {db : Database} {b : Bindings} {ts : List Table}

lemma has_of_mem_rowsOfTables : ∀ {ts : List Table}, ∀ row ∈ rowsOfTables db ts b,
    row.Has (ts.flatMap (Table.columns db))
  | [], row, hrow => by
    rw [List.mem_singleton.mp hrow]
    exact fun n => by simp [Bindings.none_]
  | t :: ts, row, hrow => by
    obtain ⟨a, ha, hrow⟩ := List.mem_flatMap.mp hrow
    obtain ⟨c, hc, rfl⟩ := List.mem_map.mp hrow
    exact (t.has_of_mem_rows a ha).or (has_of_mem_rowsOfTables c hc)

/-- The tests of several tables depend on their columns only. -/
lemma all_passes_congr {a c : Bindings} (hscoped : ∀ t ∈ ts, t.WellScoped db)
    (hac : a.AgreeOn (ts.flatMap (Table.columns db)) c) :
    ts.all (Table.passes db · a) = ts.all (Table.passes db · c) := by
  induction ts with
  | nil => rfl
  | cons t ts ih =>
    obtain ⟨ht, hts⟩ := List.forall_mem_cons.mp hscoped
    rw [List.flatMap_cons] at hac
    rw [List.all_cons, List.all_cons, ih hts (hac.mono (List.subset_append_right _ _)),
      Table.passes, Table.passes, t.tests_congr db ht (hac.mono (List.subset_append_left _ _))]

/-- The rows of several tables are the rows of what is kept of them that pass all their tests. -/
lemma rowsOfTables_kept (hjoined : ∀ t ∈ ts, t.JoinedBy JoinType.selecting)
    (hscoped : ∀ t ∈ ts, t.WellScoped db)
    (hdisj : ts.Pairwise fun t u => (t.columns db).Disjoint (u.columns db))
    (hclear : ∀ t ∈ ts, t.OuterClear) :
    (rowsOfTables db (ts.map Table.kept) b).filter (fun row => ts.all (Table.passes db · row)) =
      rowsOfTables db ts b := by
  induction ts with
  | nil => rfl
  | cons t ts ih =>
    obtain ⟨hjt, hjts⟩ := List.forall_mem_cons.mp hjoined
    obtain ⟨hst, hsts⟩ := List.forall_mem_cons.mp hscoped
    obtain ⟨hct, hcts⟩ := List.forall_mem_cons.mp hclear
    obtain ⟨hdt, hdts⟩ := List.pairwise_cons.mp hdisj
    have hapart : (t.columns db).Disjoint (ts.flatMap (Table.columns db)) := by
      intro n hn hmem
      obtain ⟨u, hu, hnu⟩ := List.mem_flatMap.mp hmem
      exact hdt u hu hn hnu
    rw [List.map_cons, rowsOfTables_cons, rowsOfTables_cons, ← t.rows_kept b hjt hst hct,
      ← ih hjts hsts hdts hcts]
    -- the first table takes its rows out by itself; the tests of the others do not see its columns
    refine filter_flatMap_of_parts fun a ha => filter_map_or fun c _ => ?_
    have ha := Table.has_of_mem_rows_kept ha
    rw [List.all_cons, all_passes_congr hsts (ha.or_agreeOn_right hapart c), Table.passes,
      t.tests_congr db hst (ha.or_agreeOn c)]
    rfl

/-- **The rows of a hoisted query** are those of the query with the semi and anti joins. -/
theorem Select.rows_hoisted {q : Select} (hjoined : ∀ t ∈ q.tables, t.JoinedBy JoinType.selecting)
    (hscoped : q.WellScoped db) (hclear : ∀ t ∈ q.tables, t.OuterClear) :
    q.hoisted.rows db b = q.rows db b := by
  obtain ⟨hwell, hdisj⟩ := hscoped
  rw [rows_eq, rows_eq, ← rowsOfTables_kept hjoined hwell hdisj hclear, List.filter_filter]
  refine List.filter_congr fun row hrow => ?_
  have hrow : row.Has (q.tables.flatMap (Table.columns db)) := by
    have hkept : q.hoisted.tables.flatMap (Table.columns db) =
        q.tables.flatMap (Table.columns db) := by
      simp only [Select.hoisted, List.flatMap_map, Table.columns_kept]
    exact hkept ▸ has_of_mem_rowsOfTables row hrow
  change (Condition.joined q.filter? (q.tables.flatMap Table.tests)).all _ = _
  rw [Condition.isMet_joined, List.all_flatMap,
    ← all_passes_congr hwell (hrow.or_agreeOn b)]
  rfl

end

end Polysql

import Mathlib.Data.List.Forall2
import Polysql.Proofs.Joining.Hoisted
import Polysql.Proofs.Place.Subquery
/-!
Queries with semi and anti joins where the engine has none. Such a query is drafted as the hoisted
one is, apart from parentheses around tables that are left alone on the right side of a join
(`Select.draft_hoisted`), and it fails where the hoisted one does (`Select.error?_draft_hoisted`);
so what is drafted has the rows of the query, unless an outer join stands around a semi or anti join
(`Select.draft_and_rows_hoisted`).
-/

namespace Polysql

/-! ### Tables in parentheses -/

namespace Draft

/-- A draft is another one with parentheses around some named tables on the right side of joins. -/
inductive Encloses : Draft → Draft → Prop
  | refl (a : Draft) : Encloses a a
  | side (type : JoinType) (s : Scope) (t : NamedTable) :
      Encloses (text type.keyword ++ " " ++ ("(" ++ namedTable s t ++ ")"))
        (text type.keyword ++ " " ++ namedTable s t)
  | append {a b c d : Draft} (h : Encloses a b) (h' : Encloses c d) : Encloses (a ++ c) (b ++ d)
  | trans {a b c : Draft} (h : Encloses a b) (h' : Encloses b c) : Encloses a c

lemma error?_append_eq_or (a b : Draft) : (a ++ b).error? = a.error?.or b.error? := by
  obtain ⟨ps, _ | e⟩ := a <;> rfl

/-- Parentheses do not make a draft fail. -/
lemma Encloses.error?_eq {a b : Draft} (h : Encloses a b) : a.error? = b.error? := by
  induction h with
  | refl => rfl
  | side type s t =>
    rw [error?_append_eq_or, error?_append_eq_or, error?_append_eq_or (_ ++ _),
      error?_append_eq_or "("]
    exact congrArg _ Option.or_none
  | append _ _ ih ih' => rw [error?_append_eq_or, error?_append_eq_or, ih, ih']
  | trans _ _ ih ih' => exact ih.trans ih'

namespace Encloses

variable {a b : Draft}

/-- A common beginning. -/
lemma after (h : Encloses a b) (c : Draft) : Encloses (c ++ a) (c ++ b) :=
  .append (.refl c) h

/-- A common end. -/
lemma before (h : Encloses a b) (c : Draft) : Encloses (a ++ c) (b ++ c) :=
  .append h (.refl c)

lemma separated (separator : String) {as bs : List Draft} (h : List.Forall₂ Encloses as bs) :
    Encloses (.separated separator as) (.separated separator bs) := by
  induction h with
  | nil => exact .refl _
  | @cons a b as bs hab hrest ih =>
    cases hrest with
    | nil => exact hab
    | cons hab' hrest => exact (hab.before _).append ih

end Encloses

end Draft

/-! ### Conditions with the queries hoisted -/

namespace Condition

/-- The rows that `EXISTS` looks for are those of the hoisted query. -/
inductive Hoists : Condition → Condition → Prop
  | hasRows {q : Select} (hplain : q.isPlain)
      (hjoined : ∀ t ∈ q.tables, t.JoinedBy JoinType.selecting) (negate : Bool) :
      Hoists (.hasRows q negate) (.hasRows q.hoisted negate)

/-- Some of the conditions that are asked together look for the rows of hoisted queries. -/
inductive HoistsAll : Condition → Condition → Prop
  | same (c : Condition) : HoistsAll c c
  | one {c d : Condition} (h : c.Hoists d) : HoistsAll c d
  | and {cs ds : List Condition} (h : List.Forall₂ (fun c d => c = d ∨ c.Hoists d) cs ds) :
      HoistsAll (.and cs) (.and ds)

lemma HoistsAll.of_or {c d : Condition} (h : c = d ∨ c.Hoists d) : HoistsAll c d := by
  rcases h with rfl | h
  · exact .same c
  · exact .one h

lemma HoistsAll.both {c c' d d' : Condition} (h : HoistsAll c d) (h' : Hoists c' d') :
    HoistsAll (both c c') (both d d') := by
  have hlast : List.Forall₂ (fun c d => c = d ∨ c.Hoists d) [c'] [d'] := .cons (.inr h') .nil
  have hpair (c : Condition) : HoistsAll (.and [c, c']) (.and [c, d']) :=
    .and (.cons (.inl rfl) hlast)
  have hsame (cs : List Condition) : List.Forall₂ (fun c d => c = d ∨ c.Hoists d) cs cs :=
    List.forall₂_same.mpr fun _ _ => .inl rfl
  -- both sides take the same way, unless the hoisted condition had been a conjunction
  cases h' with
  | hasRows hplain hjoined negate =>
    cases h with
    | one h =>
      cases h with
      | hasRows => exact .and (.cons (.inr (.hasRows ‹_› ‹_› _)) hlast)
    | and h => exact .and (List.rel_append h hlast)
    | same =>
      cases c with
      | always => exact .one (.hasRows hplain hjoined negate)
      | and cs => exact .and (List.rel_append (hsame cs) hlast)
      | _ => exact hpair _

lemma HoistsAll.foldl_both {cs ds : List Condition} (hs : List.Forall₂ Hoists cs ds) :
    ∀ {c d : Condition}, HoistsAll c d → HoistsAll (cs.foldl .both c) (ds.foldl .both d) := by
  induction hs with
  | nil => exact id
  | cons h _ ih => exact fun hcd => ih (hcd.both h)

/-- A condition together with others that look for the rows of queries. -/
lemma hoistsAll_joined (filter? : Option Condition) {cs ds : List Condition}
    (h : List.Forall₂ Hoists cs ds) :
    Option.Rel HoistsAll (joined filter? cs) (joined filter? ds) := by
  cases h with
  | nil =>
    cases filter? with
    | none => exact .none
    | some c => exact .some (.same c)
  | cons h hs =>
    refine .some ?_
    rw [all, all, List.foldl_append, List.foldl_append]
    exact HoistsAll.foldl_both (.cons h hs) (.same _)

end Condition

namespace Table

variable {d : Dialect} {t : Table}

lemma rank_join (l r : Table) (type : JoinType) (on? : Option Condition) :
    (Table.join ⟨l, r, type, on?, []⟩).rank = 6 + max l.rank (max r.rank (rankOfFilter on?)) := rfl

/-- Without semi and anti joins there is nothing to take over. -/
lemma JoinedBy.absorbed_of_plain (d : Dialect) (h : t.JoinedBy JoinType.plain) :
    t.absorbed d = [] := by
  induction h with
  | named t => rfl
  | @join l r type on? hl hr htype ihl ihr =>
    rw [absorbed, ihl, ihr, JoinType.isSemiOrAnti_of_mem_plain htype]
    simp

/-- The conditions that take over the joins of a table look for the same rows as its tests. -/
lemma JoinedBy.hoists_absorbed (hd : Feature.semiJoin.contains d = false)
    (h : t.JoinedBy JoinType.selecting) :
    List.Forall₂ Condition.Hoists (t.absorbed d) t.tests := by
  induction h with
  | named t => exact .nil
  | @join l r type on? hl hr htype ihl ihr =>
    rw [absorbed, tests, if_neg (by simp [hd])]
    -- a semi join becomes a search, and what is on its left comes behind it
    split
    next h =>
      have hcondition : Join.condition ⟨l, r, type, on?, []⟩ = on?.getD .always := by
        cases type <;> first | rfl | cases h
      let q : Select :=
        { fields := [⟨.number 1, none⟩], tables := [r], filter? := some (on?.getD .always) }
      have hfound : Join.toExists ⟨l, r, type, on?, []⟩ = .hasRows q (type == .leftAnti) := by
        rw [Join.toExists, hcondition]
        rfl
      have hhoisted : q.hoisted = r.kept.matching on? r.tests := by
        simp [q, Select.hoisted, matching]
      rw [hfound, ← hhoisted]
      exact .cons (.hasRows rfl (List.forall_mem_singleton.mpr hr) _) ihl
    · exact List.rel_append ihl ihr

end Table

namespace Select

/-- A plain query is made of what it selects, its tables, and its condition. -/
lemma exists_of_isPlain {q : Select} (h : q.isPlain) :
    ∃ fields tables filter?, q = { fields, tables, filter? } := by
  rw [isPlain.eq_def] at h
  split at h
  · exact ⟨_, _, _, rfl⟩
  · cases h

lemma hoisted_plain (fields : List SelectField) (tables : List Table)
    (filter? : Option Condition) :
    hoisted { fields, tables, filter? } =
      { fields
        tables := tables.map Table.kept
        filter? := Condition.joined filter? (tables.flatMap Table.tests) } := rfl

/-- The condition of a query, and that of the hoisted one, whose tables leave nothing to take over.
-/
lemma hoistsAll_rowCondition {d : Dialect} (hd : Feature.semiJoin.contains d = false) {q : Select}
    (h : ∀ t ∈ q.tables, t.JoinedBy JoinType.selecting) :
    Option.Rel Condition.HoistsAll (Writers.rowCondition d q)
      (Writers.rowCondition d q.hoisted) := by
  have hnone : q.hoisted.tables.flatMap (Table.absorbed d) = [] := by
    rw [List.flatMap_eq_nil_iff]
    exact List.forall_mem_map.mpr fun t ht => (h t ht).kept.absorbed_of_plain d
  have hsame : Writers.rowCondition d q.hoisted =
      Condition.joined q.filter? (q.tables.flatMap Table.tests) := by
    rw [Writers.rowCondition, hnone]
    rfl
  rw [hsame]
  refine Condition.hoistsAll_joined q.filter? ?_
  generalize q.tables = ts at h
  induction ts with
  | nil => exact .nil
  | cons t ts ih =>
    obtain ⟨ht, hts⟩ := List.forall_mem_cons.mp h
    exact List.rel_append (ht.hoists_absorbed hd) (ih hts)

end Select

/-! ### Drafts of the levels -/

namespace Writers

variable {s : Scope} {n m : Nat}

/-- A condition has one draft at all levels that are high enough. -/
lemma level_condition {c : Condition} (hn : c.rank ≤ n) (hm : c.rank ≤ m) :
    (level n).condition s c = (level m).condition s c := by
  have hplace : Move.scope ⟨false, none⟩ s = s := by
    cases s
    simp [Move.scope]
  exact ((moves_of_le ⟨false, none⟩ hn hm).condition s (Nat.le_refl _)).trans (by rw [hplace])

/-- What is selected has one draft at all levels that are high enough. -/
lemma level_selectFields {fs : List SelectField} (hn : rankOfFields fs ≤ n)
    (hm : rankOfFields fs ≤ m) : (level n).selectFields s fs = (level m).selectFields s fs := by
  have hplace : Move.scope ⟨false, none⟩ s = s := by
    cases s
    simp [Move.scope]
  exact ((moves_of_le ⟨false, none⟩ hn hm).selectFields s (Nat.le_refl _)).trans (by rw [hplace])

lemma level_table (t : Table) : (level (n + 1)).table s t = (level n).draftTable s t := rfl

lemma level_select (q : Select) : (level (n + 1)).select s q = (level n).draftSelect s q := rfl

lemma level_named (t : NamedTable) : ∀ {n : Nat}, (Table.named t).rank ≤ n →
    (level n).table s (.named t) = Draft.namedTable s t
  | _ + 1, _ => rfl

/-- The draft of a join of rows side by side. -/
lemma draftTable_join (w : Writers) {l r : Table} {type : JoinType} (on? : Option Condition)
    (htype : type ∈ JoinType.plain) :
    w.draftTable s (.join ⟨l, r, type, on?, []⟩) =
      w.table s l ++ " " ++ (Draft.text type.keyword ++ " " ++ w.rightSide s r) ++
        if type = .cross then Draft.empty else " ON " ++ w.condition s (on?.getD .always) := by
  have hsides : w.table s l ++ " " ++ (Draft.text type.keyword ++ " " ++ w.rightSide s r) =
      w.sides s l type.keyword r := by
    simp only [sides, Draft.append_assoc]
  rw [hsides]
  cases type with
  | cross => exact (Draft.append_empty _).symm
  | inner | left => exact Draft.append_assoc _ _ _
  | _ => exact absurd htype (by decide)

/-- The draft of a semi or anti join that a condition takes over. -/
lemma draftTable_semiJoin (w : Writers) (hs : s.has Feature.semiJoin = false)
    (habsorbs : s.absorbs = true) {j : Join} (hj : j.type.isSemiOrAnti = true) :
    w.draftTable s (.join j) = w.table s j.left := by
  change w.join s j = _
  rw [join, if_pos hj, semiJoin, hs, habsorbs]
  rfl

/-- A level drafts parts as another one drafts the hoisted ones. -/
structure Hoist (n m : Nat) : Prop where
  condition {s : Scope} (hs : s.has Feature.semiJoin = false) {c d : Condition}
    (h : c.HoistsAll d) (hn : c.rank ≤ n) (hm : d.rank ≤ m) :
    ((level n).condition s c).Encloses ((level m).condition s d)
  table {s : Scope} (hs : s.has Feature.semiJoin = false) (habsorbs : s.absorbs = true) {t : Table}
    (h : t.JoinedBy JoinType.selecting) (hn : t.rank ≤ n) (hm : t.kept.rank ≤ m) :
    ((level n).table s t).Encloses ((level m).table s t.kept)
  select {s : Scope} (hs : s.has Feature.semiJoin = false) {q : Select} (hplain : q.isPlain)
    (h : ∀ t ∈ q.tables, t.JoinedBy JoinType.selecting) (hn : q.rank ≤ n)
    (hm : q.hoisted.rank ≤ m) :
    ((level n).select s q).Encloses ((level m).select s q.hoisted)

namespace Hoist

variable (hw : Hoist n m) (hs : s.has Feature.semiJoin = false)
include hw hs

lemma parenthesized {c d : Condition} (h : c.HoistsAll d) (hn : c.rank ≤ n) (hm : d.rank ≤ m) :
    ((level n).parenthesized s c).Encloses ((level m).parenthesized s d) :=
  ((hw.condition (s := s.operandOf none) hs h hn hm).after _).before _

lemma subquery {q : Select} (hplain : q.isPlain)
    (h : ∀ t ∈ q.tables, t.JoinedBy JoinType.selecting) (hn : q.rank ≤ n)
    (hm : q.hoisted.rank ≤ m) :
    ((level n).subquery s q).Encloses ((level m).subquery s q.hoisted) :=
  ((hw.select (s := s.inQuery) hs hplain h hn hm).after _).before _

/-! ### Conditions -/

lemma junctionOperand {c d : Condition} (h : c = d ∨ c.Hoists d) (hn : c.rank ≤ n)
    (hm : d.rank ≤ m) :
    ((level n).junctionOperand s .and c).Encloses ((level m).junctionOperand s .and d) := by
  have hparens : c.needsParens .and = d.needsParens .and := by
    rcases h with rfl | h
    · rfl
    · cases h
      rfl
  rw [Writers.junctionOperand, Writers.junctionOperand, hparens]
  split
  · exact hw.parenthesized hs (.of_or h) hn hm
  · exact hw.condition (s := s.operandOf (some .and)) hs (.of_or h) hn hm

lemma junctionOperands {cs ds : List Condition}
    (h : List.Forall₂ (fun c d => c = d ∨ c.Hoists d) cs ds) (hn : rankOfConditions cs ≤ n)
    (hm : rankOfConditions ds ≤ m) :
    List.Forall₂ Draft.Encloses (cs.map ((level n).junctionOperand s .and))
      (ds.map ((level m).junctionOperand s .and)) := by
  induction h with
  | nil => exact .nil
  | cons h _ ih =>
    obtain ⟨hn, hns⟩ := Nat.max_le.mp hn
    obtain ⟨hm, hms⟩ := Nat.max_le.mp hm
    exact .cons (hw.junctionOperand hs h hn hm) (ih hns hms)

lemma junction {cs ds : List Condition} (h : List.Forall₂ (fun c d => c = d ∨ c.Hoists d) cs ds)
    (hn : rankOfConditions cs ≤ n) (hm : rankOfConditions ds ≤ m) :
    ((level n).junction s .and .always cs).Encloses ((level m).junction s .and .always ds) := by
  have hoperands := hw.junctionOperands hs h hn hm
  cases h with
  | nil => exact hw.condition hs (.same _) hn hm
  | cons h hrest =>
    cases hrest with
    | nil => exact hw.condition hs (.of_or h) (Nat.max_le.mp hn).1 (Nat.max_le.mp hm).1
    | cons => exact .separated _ hoperands

lemma draftCondition {c d : Condition} (h : c.HoistsAll d) (hn : c.rank ≤ n + 1)
    (hm : d.rank ≤ m + 1) :
    ((level (n + 1)).condition s c).Encloses ((level (m + 1)).condition s d) := by
  cases h with
  | same => exact level_condition hn hm ▸ .refl _
  | one h =>
    cases h with
    | @hasRows q hplain hjoined negate =>
      change 1 + q.rank ≤ n + 1 at hn
      change 1 + q.hoisted.rank ≤ m + 1 at hm
      exact (hw.subquery hs hplain hjoined (by omega) (by omega)).after _
  | @and cs ds h =>
    change 1 + rankOfConditions cs ≤ n + 1 at hn
    change 1 + rankOfConditions ds ≤ m + 1 at hm
    exact hw.junction hs h (by omega) (by omega)

/-! ### Tables -/

lemma rightSide (habsorbs : s.absorbs = true) {t : Table} (h : t.JoinedBy JoinType.selecting)
    (hn : t.rank ≤ n) (hm : t.kept.rank ≤ m) (around : JoinType) :
    (Draft.text around.keyword ++ " " ++ (level n).rightSide s t).Encloses
      (Draft.text around.keyword ++ " " ++ (level m).rightSide s t.kept) := by
  have htable := hw.table hs habsorbs h hn hm
  cases h with
  | named t => exact htable.after _
  | @join l r type on? hl hr htype =>
    refine (((htable.after _).before _).after _).trans ?_
    have hkept : (Table.join ⟨l, r, type, on?, []⟩).kept.JoinedBy JoinType.plain :=
      (Table.JoinedBy.join hl hr htype).kept
    generalize (Table.join ⟨l, r, type, on?, []⟩).kept = kept at hm hkept
    cases hkept with
    | named t =>
      change (_ ++ ("(" ++ (level m).table s (.named t) ++ ")")).Encloses
        (_ ++ (level m).table s (.named t))
      rw [level_named t hm]
      exact .side around s t
    | join => exact .refl _

lemma draftTable (hw' : Hoist n (m + 1)) (habsorbs : s.absorbs = true) {t : Table}
    (h : t.JoinedBy JoinType.selecting) (hn : t.rank ≤ n + 1) (hm : t.kept.rank ≤ m + 1) :
    ((level (n + 1)).table s t).Encloses ((level (m + 1)).table s t.kept) := by
  cases h with
  | named t => exact .refl _
  | @join l r type on? hl hr htype =>
    have hrank := Table.rank_join l r type on?
    rw [level_table, level_table]
    rw [Table.kept] at hm ⊢
    -- a semi join is not written at all, any other with its two sides
    by_cases hsemi : type.isSemiOrAnti = true
    · rw [if_pos hsemi] at hm ⊢
      rw [draftTable_semiJoin _ hs habsorbs hsemi, ← level_table]
      exact hw'.table hs habsorbs hl (show l.rank ≤ n by omega) hm
    · rw [if_neg hsemi] at hm ⊢
      have hrank' := Table.rank_join l.kept r.kept type on?
      have hon : (on?.getD .always).rank = rankOfFilter on? := by cases on? <;> rfl
      have htype := JoinType.mem_plain htype hsemi
      rw [draftTable_join _ _ htype, draftTable_join _ _ htype]
      have hleft := hw.table hs habsorbs hl (by omega) (by omega)
      have hright := hw.rightSide hs habsorbs hr (by omega) (by omega) type
      refine .append (.append (hleft.before _) hright) ?_
      split
      · exact .refl _
      · exact (hw.condition hs (.same _) (by omega) (by omega)).after _

/-! ### Queries -/

lemma tables {ts : List Table} (h : ∀ t ∈ ts, t.JoinedBy JoinType.selecting)
    (hn : rankOfTables ts ≤ n) (hm : rankOfTables (ts.map Table.kept) ≤ m) :
    ((level n).tables s ts).Encloses ((level m).tables s (ts.map Table.kept)) := by
  refine .separated _ ?_
  induction ts with
  | nil => exact .nil
  | cons t ts ih =>
    obtain ⟨ht, hts⟩ := List.forall_mem_cons.mp h
    obtain ⟨hn, hns⟩ := Nat.max_le.mp hn
    obtain ⟨hm, hms⟩ := Nat.max_le.mp hm
    exact .cons (hw.table (s := s.absorbing) hs rfl ht hn hm) (ih hts hns hms)

lemma fromClause {ts : List Table} (h : ∀ t ∈ ts, t.JoinedBy JoinType.selecting)
    (hn : rankOfTables ts ≤ n) (hm : rankOfTables (ts.map Table.kept) ≤ m)
    (filter? : Option Condition) :
    ((level n).fromClause s ts filter?.isSome).Encloses
      ((level m).fromClause s (ts.map Table.kept)
        (Condition.joined filter? (ts.flatMap Table.tests)).isSome) := by
  have hall {types : List JoinType} {ts : List Table} (h : ∀ t ∈ ts, t.JoinedBy types) :
      (ts.filter fun t => !t.isDual) = ts :=
    List.filter_eq_self.mpr fun t ht => by
      cases h t ht <;> rfl
  rw [Writers.fromClause, Writers.fromClause, hall h,
    hall (List.forall_mem_map.mpr fun t ht => (h t ht).kept)]
  cases ts with
  | nil => exact .refl _
  | cons t ts => exact (hw.tables hs h hn hm).after _

lemma whereClause {filter? filter'? : Option Condition}
    (h : Option.Rel Condition.HoistsAll filter? filter'?) (hn : rankOfFilter filter? ≤ n)
    (hm : rankOfFilter filter'? ≤ m) :
    ((level n).whereClause s filter?).Encloses ((level m).whereClause s filter'?) := by
  cases h with
  | none => exact .refl _
  | some h => exact (hw.condition hs h hn hm).after _

lemma draftSelect {q : Select} (hplain : q.isPlain)
    (h : ∀ t ∈ q.tables, t.JoinedBy JoinType.selecting) (hn : q.rank ≤ n + 1)
    (hm : q.hoisted.rank ≤ m + 1) :
    ((level (n + 1)).select s q).Encloses ((level (m + 1)).select s q.hoisted) := by
  have hone := q.one_lt_rank
  have hone' := q.hoisted.one_lt_rank
  have hparts : q.PartsWithin (n - 1) := Select.partsWithin_of_rank_le (by omega)
  have hparts' : q.hoisted.PartsWithin (m - 1) := Select.partsWithin_of_rank_le (by omega)
  have hcondition := rankOfFilter_rowCondition_le s.dialect hparts
  have hcondition' := rankOfFilter_rowCondition_le s.dialect hparts'
  have hparts := hparts.mono (show n - 1 ≤ n by omega)
  have hparts' := hparts'.mono (show m - 1 ≤ m by omega)
  have hwhere := hw.whereClause hs (Select.hoistsAll_rowCondition hs h) (by omega) (by omega)
  obtain ⟨fields, tables, filter?, rfl⟩ := Select.exists_of_isPlain hplain
  rw [level_select, level_select, Select.hoisted_plain, draftSelect_plain, draftSelect_plain,
    level_selectFields hparts.fields hparts'.fields]
  exact .append ((hw.fromClause hs h hparts.tables hparts'.tables filter?).after _) hwhere

end Hoist

/-- **Drafts of all levels.** -/
theorem hoist : ∀ n m : Nat, Hoist n m
  | 0, m =>
    { condition := fun _ c _ _ hn => absurd c.one_le_rank (by omega)
      table := fun _ _ t _ hn => absurd t.one_le_rank (by omega)
      select := fun _ q _ _ hn => absurd q.one_lt_rank (by omega) }
  | n + 1, 0 =>
    { condition := fun _ _ d _ _ hm => absurd d.one_le_rank (by omega)
      table := fun _ _ t _ _ hm => absurd t.kept.one_le_rank (by omega)
      select := fun _ q _ _ _ hm => absurd q.hoisted.one_lt_rank (by omega) }
  | n + 1, m + 1 =>
    have hw := hoist n m
    { condition := fun hs _ _ => hw.draftCondition hs
      table := fun hs habsorbs _ => hw.draftTable hs (hoist n (m + 1)) habsorbs
      select := fun hs _ => hw.draftSelect hs }

end Writers

/-! ### The rows of what is drafted -/

lemma Draft.ofStatement_select (target : Target) (q : Select) :
    Draft.ofStatement target (.select q) = (Writers.level q.rank).select { target } q := by
  change (Writers.level (1 + q.rank)).statement { target } (.select q) = _
  rw [Nat.add_comm]
  rfl

namespace Select

variable {target : Target} {q : Select}

/-- A query is drafted as the hoisted one, but for parentheses around tables. -/
lemma draft_hoisted (htarget : Feature.semiJoin.contains target.dialect = false)
    (hplain : q.isPlain) (hjoined : ∀ t ∈ q.tables, t.JoinedBy JoinType.selecting) :
    (Draft.ofStatement target (.select q)).Encloses
      (Draft.ofStatement target (.select q.hoisted)) := by
  rw [Draft.ofStatement_select, Draft.ofStatement_select]
  exact (Writers.hoist _ _).select (s := { target }) htarget hplain hjoined (Nat.le_refl _)
    (Nat.le_refl _)

/-- A query fails where the hoisted one does, and for the same reason. -/
lemma error?_draft_hoisted (htarget : Feature.semiJoin.contains target.dialect = false)
    (hplain : q.isPlain) (hjoined : ∀ t ∈ q.tables, t.JoinedBy JoinType.selecting) :
    (Draft.ofStatement target (.select q)).error? =
      (Draft.ofStatement target (.select q.hoisted)).error? :=
  (draft_hoisted htarget hplain hjoined).error?_eq

/-- **Semi and anti joins without an engine for them.** What is drafted for a query on joined tables
is, but for parentheses around tables, the draft of a query that has neither semi nor anti joins,
and that query has the rows of the other one. This holds where no semi or anti join stands on the
right side of a left outer join. -/
theorem draft_and_rows_hoisted {db : Database}
    (htarget : Feature.semiJoin.contains target.dialect = false) (hplain : q.isPlain)
    (hjoined : ∀ t ∈ q.tables, t.JoinedBy JoinType.selecting) (hscoped : q.WellScoped db)
    (hclear : ∀ t ∈ q.tables, t.OuterClear) :
    (Draft.ofStatement target (.select q)).Encloses
        (Draft.ofStatement target (.select q.hoisted)) ∧
      (∀ t ∈ q.hoisted.tables, t.JoinedBy JoinType.plain) ∧
      ∀ outer : Bindings, q.hoisted.rows db outer = q.rows db outer :=
  ⟨draft_hoisted htarget hplain hjoined,
    List.forall_mem_map.mpr fun t ht => (hjoined t ht).kept,
    fun _ => rows_hoisted hjoined hscoped hclear⟩

end Select

/-! ### Joins on one column -/

/-- The database whose tables have one column `x` with some values. -/
def Database.ofValues (values : Name → List Value) : Database where
  columns t := [t.reference ++ Name.ofText "x"]
  rows t := (values t.name).map fun v _ => v

/-- Two tables have the same value in their columns `x`. -/
def Condition.sameValue (m n : String) : Condition :=
  .equals (.column (.ofTexts [m, "x"])) (.column (.ofTexts [n, "x"]))

namespace Table

/-- A join of two tables on their columns `x`. -/
def joinOnValue (type : JoinType) (m n : String) (l r : Table) : Table :=
  .join ⟨l, r, type, some (.sameValue m n), []⟩

lemma wellScoped_joinOnValue {db : Database} {type : JoinType} {m n : String} {l r : Table}
    (hl : l.WellScoped db) (hr : r.WellScoped db)
    (hdisj : ∀ n ∈ l.columns db, n ∉ r.columns db)
    (hm : Name.ofTexts [m, "x"] ∈ l.columns db) (hn : Name.ofTexts [n, "x"] ∈ r.columns db) :
    (joinOnValue type m n l r).WellScoped db := by
  refine ⟨hl, hr, fun n h h' => hdisj n h h', fun c hc => ?_⟩
  cases hc
  exact Condition.reads_equals (List.mem_append_left _ hm) (List.mem_append_right _ hn)

end Table

/-- A semi join around an anti join, on the left side of an outer join. -/
theorem Select.draft_and_rows_hoisted_nested :
    let among := Table.joinOnValue .leftAnti "b" "c" (.ofName (.ofText "b")) (.ofName (.ofText "c"))
    let left := Table.joinOnValue .leftSemi "a" "b" (.ofName (.ofText "a")) among
    let q : Select :=
      { tables := [.joinOnValue .left "a" "d" left (.ofName (.ofText "d"))]
        filter? := some (.compare (.column (.ofTexts ["a", "x"])) .gt (.number 1)) }
    let db : Database := .ofValues fun n =>
      if n = .ofText "c" then [.ofNat 3] else if n = .ofText "d" then [] else [.ofNat 2, .ofNat 3]
    let target := Renderer.target { dialect := .postgres }
    (q.rows db .none_).length = 1 ∧
      (Draft.ofStatement target (.select q)).Encloses
        (Draft.ofStatement target (.select q.hoisted)) ∧
      (∀ t ∈ q.hoisted.tables, t.JoinedBy JoinType.plain) ∧
      ∀ outer : Bindings, q.hoisted.rows db outer = q.rows db outer := by
  intro among left q db target
  have hamong : among.WellScoped db := Table.wellScoped_joinOnValue trivial trivial
    (by decide) (by decide) (by decide)
  have hleft : left.WellScoped db := Table.wellScoped_joinOnValue trivial hamong
    (by decide) (by decide) (by decide)
  have hq : ∀ t ∈ q.tables, t.WellScoped db :=
    List.forall_mem_singleton.mpr (Table.wellScoped_joinOnValue hleft trivial
      (by decide) (by decide) (by decide))
  have hjoined : ∀ t ∈ q.tables, t.JoinedBy JoinType.selecting :=
    List.forall_mem_singleton.mpr (.join
      (.join (.named _) (.join (.named _) (.named _) (by decide)) (by decide))
      (.named _) (by decide))
  have hclear : ∀ t ∈ q.tables, t.OuterClear :=
    List.forall_mem_singleton.mpr ⟨⟨trivial, ⟨trivial, trivial, nofun⟩, nofun⟩, trivial,
      fun _ => .named _⟩
  exact ⟨by decide, draft_and_rows_hoisted (by decide) rfl hjoined
    ⟨hq, List.pairwise_singleton _ _⟩ hclear⟩

/-- A semi join on the right side of an outer one. The row that the outer join completes by NULLs
does not meet the condition that takes the place of the semi join. -/
theorem Select.rows_hoisted_leftJoin :
    let right := Table.joinOnValue .leftSemi "b" "c" (.ofName (.ofText "b")) (.ofName (.ofText "c"))
    let q : Select := { tables := [.joinOnValue .left "a" "b" (.ofName (.ofText "a")) right] }
    let db : Database := .ofValues fun n => if n = .ofText "c" then [] else [.ofNat 1]
    let r : Renderer := { dialect := .postgres }
    ((∀ t ∈ q.tables, t.JoinedBy JoinType.selecting) ∧ q.WellScoped db) ∧
      (Draft.ofStatement r.target (.select q)).Encloses
        (Draft.ofStatement r.target (.select q.hoisted)) ∧
      (r.render (.select q)).map Rendered.sql =
        .ok ("SELECT * FROM \"a\" LEFT OUTER JOIN (\"b\") ON \"a\".\"x\" = \"b\".\"x\" " ++
          "WHERE EXISTS (SELECT 1 FROM \"c\" WHERE \"b\".\"x\" = \"c\".\"x\")") ∧
      (q.rows db .none_).length = 1 ∧ (q.hoisted.rows db .none_).length = 0 := by
  intro right q db r
  have hright : right.WellScoped db := Table.wellScoped_joinOnValue trivial trivial
    (by decide) (by decide) (by decide)
  have hq : ∀ t ∈ q.tables, t.WellScoped db :=
    List.forall_mem_singleton.mpr (Table.wellScoped_joinOnValue trivial hright
      (by decide) (by decide) (by decide))
  have hjoined : ∀ t ∈ q.tables, t.JoinedBy JoinType.selecting :=
    List.forall_mem_singleton.mpr (.join (.named _)
      (.join (.named _) (.named _) (by decide)) (by decide))
  refine ⟨⟨hjoined, hq, List.pairwise_singleton _ _⟩, draft_hoisted (by decide) rfl hjoined, ?_, ?_,
    ?_⟩
  · decide +kernel
  · decide +kernel
  · decide +kernel

end Polysql

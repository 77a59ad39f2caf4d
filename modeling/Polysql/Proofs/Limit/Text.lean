import Polysql.Proofs.Limit.Clause
import Polysql.Proofs.Place.Surrounded
/-!
The text of a limited query. What limits the rows is a few clauses in the query, or one or two
queries around it (`LimitText`); the rest is the text of the query without a limit
(`Writers.select_eq_limitText`, `Writers.select_unlimited_eq`). A query that an engine cannot limit
is not drafted, so that clauses in front of a set operation, which would limit its first operand
only, are never written (`Writers.inFront_or_setOps`).
-/

namespace Polysql

open Writers (ofRank)

/-! ### The text of a limited query -/

/-- What limits the rows of a query in its text. -/
structure LimitText where
  /-- The clauses in front of `DISTINCT`. -/
  beforeDistinct : List RowClause := []
  /-- The clauses between `DISTINCT` and what is selected. -/
  afterDistinct : List RowClause := []
  /-- The rows are ordered by a constant, for the sake of the clauses at the end. -/
  constantOrder : Bool := false
  /-- The clauses at the end. -/
  atEnd : List RowClause := []
  /-- The queries around it, from the outermost one on. -/
  layers : List Layer := []

namespace LimitText

/-- The clauses in front of what is selected. -/
def inFront (t : LimitText) : List RowClause :=
  t.beforeDistinct ++ t.afterDistinct

/-- The rows of a query without its set operations, with the clauses in front. -/
def body (t : LimitText) (s : Scope) (q : Select) : Draft :=
  "SELECT " ++ RowClause.drafts .text t.beforeDistinct ++
    Draft.ofOption (ofRank.distinct s) q.distinct? ++
    RowClause.drafts .text t.afterDistinct ++ ofRank.selectFields s q.fields ++
    ofRank.fromClause s q.tables q.filter?.isSome ++
    ofRank.whereClause s (Writers.rowCondition s.dialect q) ++
    Draft.onlyIf (!q.groupBy.isEmpty) (s.clause "GROUP BY " ++ ofRank.exprs s q.groupBy) ++
    Draft.ofOption (fun c => s.clause "HAVING " ++ ofRank.condition s c) q.having?

/-- The text of a query with the clauses in it. -/
def block (t : LimitText) (s : Scope) (q : Select) : Draft :=
  Draft.ofOption (ofRank.withClause s) q.with? ++ t.body s q ++
    Draft.concat (q.setOps.map (ofRank.setOperation s)) ++ ofRank.orderBy s q.orderBy ++
    (Draft.onlyIf t.constantOrder (s.clause "ORDER BY (SELECT 0)") ++
      RowClause.drafts s.clause t.atEnd) ++
    Draft.onlyIf q.forUpdate (s.clause "FOR UPDATE")

/-- The text of a query with its limit. -/
def draft (t : LimitText) (s : Scope) (q : Select) : Draft :=
  if t.layers.isEmpty then t.block s q
  else
    String.join (t.layers.map Layer.opening) ++ t.block s.inQuery q ++
      .concat (t.layers.reverse.map (Layer.closing s))

/-- All clauses and conditions are read from their texts as they are. -/
structure IsRead (s : Scope) (t : LimitText) : Prop where
  inFront : ∀ c ∈ t.inFront, RowClause.read (c.draft .text).tokens = some c
  atEnd : ∀ c ∈ t.atEnd, RowClause.read (c.draft s.clause).tokens = some c
  layers : ∀ l ∈ t.layers, ∀ c ∈ l.condition?,
    RowCondition.read (c.draft (l.start s)).tokens = some c

lemma isRead (s : Scope) (t : LimitText) : t.IsRead s where
  inFront c _ := c.read_tokens Draft.begins_text
  atEnd c _ := c.read_tokens (Draft.begins_clause s)
  layers l _ c _ := c.read_tokens (l.begins_start s)

end LimitText

namespace Limit

/-- How many rows are left out. -/
def skipped (l : Limit) : Nat :=
  l.offset?.elim 0 UInt64.toNat

/-- The limit keeps the row at a position, counted from one on. -/
def keeps (l : Limit) (position : Nat) : Bool :=
  l.skipped < position && l.count?.all fun n => position ≤ l.skipped + n.toNat

/-- The clause that some engines ask for beside an offset without a limit. -/
def unlimited (f : Family) : List RowClause :=
  match f with
  | .mySql | .mariaDb => [.limit (UInt64.size - 1)]
  | .sqlite => [.unlimited]
  | _ => []

/-- The clauses of `LIMIT n OFFSET m`. -/
def limitOffset (f : Family) (l : Limit) : List RowClause :=
  match l.count?, l.offset? with
  | some n, m? => .limit n.toNat :: (m?.map fun m => .offset m.toNat).toList
  | none, some m => unlimited f ++ [.offset m.toNat]
  | none, none => []

/-- The clauses of `OFFSET m ROWS FETCH NEXT n ROWS ONLY`. -/
def offsetFetch (l : Limit) : List RowClause :=
  (l.offset?.map fun m => .offsetRows m.toNat).toList ++
    (l.count?.map fun n => .fetchNext n.toNat).toList

/-- The limit with an offset in any case. -/
def fromOffset (l : Limit) : Limit :=
  { l with offset? := some (l.offset?.getD 0) }

/-- The clauses of `FIRST n SKIP m`. -/
def firstSkip (l : Limit) : List RowClause :=
  (l.count?.map fun n => .first n.toNat).toList ++ (l.offset?.map fun m => .skip m.toNat).toList

/-- The queries around a limited one by the numbers of its rows. -/
def layers (l : Limit) : List Layer :=
  match l.count?, l.offset? with
  | some n, none => [⟨false, true, some (.upTo n.toNat)⟩]
  | n?, m? =>
    let m := m?.getD 0
    [⟨false, false, some (.above m.toNat)⟩, ⟨true, true, n?.map fun n => .upTo (lastRow n m)⟩]

end Limit

namespace Select

variable (d : Dialect) (q : Select)

/-- What limits a query in its text on an engine. -/
def limitText : LimitText :=
  match q.limited? with
  | none => {}
  | some l =>
    match d.limitForm with
    | .limitOffset => { atEnd := l.limitOffset d.family }
    | .fetchNext => { atEnd := l.offsetFetch }
    | .top =>
      if l.fitsTop q then
        { afterDistinct := (l.count?.map fun n => .top n.toNat).toList }
      else
        { constantOrder := q.orderBy.isEmpty, atEnd := l.fromOffset.offsetFetch }
    | .firstSkip => { beforeDistinct := l.firstSkip }
    | .rowNumber => { layers := l.layers }

/-- Only a condition on row numbers needs queries around the limited one. -/
lemma layers_limitText (h : d.limitForm ≠ .rowNumber) : (q.limitText d).layers = [] := by
  rw [limitText]
  cases q.limited? with
  | none => rfl
  | some l =>
    cases hform : d.limitForm with
    | top => cases hfits : l.fitsTop q <;> simp [hfits]
    | rowNumber => exact absurd hform h
    | _ => rfl

/-- The limit of a query; that of a query without one is empty. -/
def limitOrEmpty : Limit :=
  q.limit?.getD ⟨none, none⟩

/-- An empty limit limits nothing. -/
lemma limited?_cases :
    q.limited? = none ∧ q.limitOrEmpty = ⟨none, none⟩ ∨
      q.limited? = some q.limitOrEmpty ∧ q.limitOrEmpty ≠ ⟨none, none⟩ := by
  rw [limited?, limitOrEmpty]
  obtain _ | ⟨_ | n, _ | m⟩ := q.limit?
  · exact .inl ⟨rfl, rfl⟩
  · exact .inl ⟨rfl, rfl⟩
  all_goals
    refine .inr ⟨rfl, fun hnone => ?_⟩
    cases hnone

lemma limitText_of_empty (h : q.limitOrEmpty = ⟨none, none⟩) : q.limitText d = {} := by
  obtain ⟨hlimited, -⟩ | ⟨-, hne⟩ := q.limited?_cases
  · rw [limitText, hlimited]
  · exact absurd h hne

end Select

namespace Writers

variable {s : Scope} {q : Select}

/-! ### Clauses at their places -/

lemma drafts_toList {start : String → Draft} (make : UInt64 → RowClause) (n? : Option UInt64) :
    RowClause.drafts start (n?.map make).toList =
      Draft.ofOption (fun n => (make n).draft start) n? := by
  cases n? with
  | none => rfl
  | some n => exact Draft.append_empty _

lemma drafts_append {start : String → Draft} (cs cs' : List RowClause) :
    RowClause.drafts start (cs ++ cs') =
      RowClause.drafts start cs ++ RowClause.drafts start cs' := by
  rw [RowClause.drafts, List.map_append, Draft.concat_append]
  rfl

lemma offsetFetch_eq (l : Limit) :
    Draft.offsetFetch s l = RowClause.drafts s.clause l.offsetFetch := by
  rw [Limit.offsetFetch, drafts_append, drafts_toList, drafts_toList]
  rfl

lemma unlimited_eq : Draft.unlimited s = RowClause.drafts s.clause (Limit.unlimited s.family) := by
  rw [Draft.unlimited, Limit.unlimited.eq_def]
  cases s.family <;> rfl

lemma limitOffset_eq (l : Limit) :
    Draft.limitOffset s l = RowClause.drafts s.clause (l.limitOffset s.family) := by
  obtain ⟨_ | n, _ | m⟩ := l
  · rfl
  · change Draft.unlimited s ++ _ ++ _ = RowClause.drafts s.clause (Limit.unlimited s.family ++ _)
    rw [drafts_append, unlimited_eq, Draft.append_assoc]
    rfl
  · rfl
  · rfl

lemma firstSkip_eq {l : Limit} (h : (Draft.firstSkip s q l).error? = none) :
    q.setOps = [] ∧ Draft.firstSkip s q l = RowClause.drafts .text l.firstSkip := by
  rw [Draft.firstSkip] at h ⊢
  split at h
  next hsetOps =>
    rw [if_pos hsetOps, Limit.firstSkip, drafts_append, drafts_toList, drafts_toList]
    exact ⟨List.isEmpty_iff.mp hsetOps, rfl⟩
  next => cases h

lemma orderedOffsetFetch_eq {l : Limit} (h : (Draft.orderedOffsetFetch s q l).error? = none) :
    Draft.orderedOffsetFetch s q l =
      Draft.onlyIf q.orderBy.isEmpty (s.clause "ORDER BY (SELECT 0)") ++
        RowClause.drafts s.clause l.fromOffset.offsetFetch := by
  rw [Draft.orderedOffsetFetch] at h ⊢
  split at h
  next => cases h
  next hfamily =>
    rw [if_neg hfamily, offsetFetch_eq]
    rfl

/-- Clauses in front of what is selected come before `DISTINCT`, or after it if they are a `TOP`. -/
lemma limitInFront_eq (h : (Draft.limitInFront s q).error? = none) :
    let t := q.limitText s.dialect
    let limit (afterDistinct : Bool) :=
      Draft.onlyIf (true && (s.dialect.limitForm == .top) == afterDistinct)
        (Draft.limitInFront s q)
    limit false = RowClause.drafts .text t.beforeDistinct ∧
      limit true = RowClause.drafts .text t.afterDistinct := by
  dsimp only
  rw [Draft.limitInFront] at h ⊢
  rw [Select.limitText]
  cases hl : q.limited? with
  | none => constructor <;> cases s.dialect.limitForm <;> rfl
  | some l =>
    rw [hl, Draft.ofOption] at h
    -- only two of the five forms write anything in front
    cases hform : s.dialect.limitForm with
    | top =>
      dsimp only [Draft.ofOption]
      cases l.fitsTop q with
      | true => cases l.count? <;> exact ⟨rfl, rfl⟩
      | false => exact ⟨rfl, rfl⟩
    | firstSkip =>
      rw [hform] at h
      exact ⟨(firstSkip_eq h).2, rfl⟩
    | _ => exact ⟨rfl, rfl⟩

/-- What stands at the end, and the order that it asks for. -/
lemma limitAtEnd_eq (h : (Draft.limitAtEnd s q).error? = none) :
    let t := q.limitText s.dialect
    Draft.limitAtEnd s q =
      Draft.onlyIf t.constantOrder (s.clause "ORDER BY (SELECT 0)") ++
        RowClause.drafts s.clause t.atEnd := by
  dsimp only
  rw [Draft.limitAtEnd] at h ⊢
  rw [Select.limitText]
  cases hl : q.limited? with
  | none => rfl
  | some l =>
    rw [hl, Draft.ofOption] at h
    cases hform : s.dialect.limitForm with
    | limitOffset => exact limitOffset_eq l
    | fetchNext => exact offsetFetch_eq l
    | top =>
      rw [hform] at h
      dsimp only [Draft.ofOption] at h ⊢
      -- if the count is not written in front, the engine wants an order here
      cases hfits : l.fitsTop q with
      | true => rfl
      | false =>
        rw [hfits] at h
        exact orderedOffsetFetch_eq h
    | _ => rfl

lemma error?_limitInFront (h : (ofRank.body s q true).error? = none) :
    (Draft.limitInFront s q).error? = none := by
  simp only [body, Draft.error?_append] at h
  obtain ⟨⟨⟨⟨⟨⟨⟨⟨-, hbefore⟩, -⟩, hafter⟩, -⟩, -⟩, -⟩, -⟩, -⟩ := h
  cases htop : s.dialect.limitForm == .top with
  | true => rwa [htop] at hafter
  | false => rwa [htop] at hbefore

lemma body_eq (h : (ofRank.body s q true).error? = none) :
    ofRank.body s q true = (q.limitText s.dialect).body s q := by
  obtain ⟨hbefore, hafter⟩ := limitInFront_eq (error?_limitInFront h)
  rw [body, LimitText.body, hbefore, hafter]

lemma error?_selectLimited (h : (ofRank.selectLimited s q).error? = none) :
    (q.forUpdate && s.has Feature.withoutForUpdate) = false ∧
      (ofRank.body s q true).error? = none ∧ (Draft.limitAtEnd s q).error? = none := by
  rw [selectLimited] at h
  split at h
  next => cases h
  next hlock =>
    simp only [Draft.error?_append] at h
    exact ⟨Bool.eq_false_iff.mpr hlock, h.1.1.1.1.2, h.1.2⟩

/-- The query itself, with the clauses in it. -/
lemma selectLimited_eq (h : (ofRank.selectLimited s q).error? = none) :
    ofRank.selectLimited s q = (q.limitText s.dialect).block s q := by
  obtain ⟨hlock, hbody, hatEnd⟩ := error?_selectLimited h
  rw [selectLimited, hlock, if_neg Bool.false_ne_true, limitAtEnd_eq hatEnd, body_eq hbody,
    LimitText.block]

/-- A query without its limit, which is refused for its lock only. -/
lemma selectLimited_unlimited (hlock : (q.forUpdate && s.has Feature.withoutForUpdate) = false) :
    ofRank.selectLimited s { q with limit? := none } = ({} : LimitText).block s q := by
  rw [selectLimited, hlock, if_neg Bool.false_ne_true, LimitText.block, LimitText.body, body]
  have hfront : Draft.limitInFront s { q with limit? := none } = .empty := rfl
  have hnone (b : Bool) : Draft.onlyIf b .empty = .empty := ite_self _
  simp only [hfront, hnone]
  rfl

/-- A query without its limit. -/
lemma select_unlimited : ofRank.select s { q with limit? := none } =
    ofRank.selectLimited s { q with limit? := none } :=
  select_ofRank s _

/-- A limited query has clauses in it, or it is a query without a limit in others. -/
lemma select_cases (s : Scope) (q : Select) :
    ofRank.select s q = ofRank.selectLimited s q ∧ (q.limitText s.dialect).layers = [] ∨
      ∃ l : Limit, s.dialect.limitForm = .rowNumber ∧ q.limited? = some l ∧
        ofRank.select s q = String.join (l.layers.map Layer.opening) ++
          ofRank.selectLimited s.inQuery { q with limit? := none } ++
          Draft.concat (l.layers.reverse.map (Layer.closing s)) := by
  rw [select_ofRank, draftSelect]
  cases hlimited : q.limited? with
  | none =>
    refine .inl ⟨rfl, ?_⟩
    rw [Select.limitText, hlimited]
  | some l =>
    by_cases hform : s.dialect.limitForm = .rowNumber
    · refine .inr ⟨l, hform, rfl, ?_⟩
      dsimp only
      rw [if_pos hform, rowNumbered, select_unlimited]
      generalize ofRank.selectLimited s.inQuery _ = all
      obtain ⟨_ | n, _ | m⟩ := l <;>
      · simp only [Draft.append_assoc]
        rfl
    · exact .inl ⟨if_neg hform, Select.layers_limitText s.dialect q hform⟩

/-- A query that is drafted is not refused for its lock, nor for clauses in front. -/
lemma error?_select (h : (ofRank.select s q).error? = none) :
    (q.forUpdate && s.has Feature.withoutForUpdate) = false ∧
      (Draft.limitInFront s q).error? = none := by
  obtain ⟨hselect, -⟩ | ⟨l, hform, hlimited, hselect⟩ := select_cases s q
  · rw [hselect] at h
    obtain ⟨hlock, hbody, -⟩ := error?_selectLimited h
    exact ⟨hlock, error?_limitInFront hbody⟩
  · rw [hselect] at h
    simp only [Draft.error?_append] at h
    obtain ⟨hlock, -, -⟩ := error?_selectLimited h.1.2
    refine ⟨hlock, ?_⟩
    rw [Draft.limitInFront, hlimited, hform]
    rfl

/-- A query without its limit, which is refused for its lock only. -/
lemma select_unlimited_eq (hlock : (q.forUpdate && s.has Feature.withoutForUpdate) = false) :
    ofRank.select s { q with limit? := none } = ({} : LimitText).draft s q := by
  rw [select_unlimited]
  exact selectLimited_unlimited hlock

/-- A query with its limit. -/
lemma select_eq_limitText (h : (ofRank.select s q).error? = none) :
    ofRank.select s q = (q.limitText s.dialect).draft s q := by
  obtain ⟨hlock, -⟩ := error?_select h
  obtain ⟨hselect, hlayers⟩ | ⟨l, hform, hlimited, hselect⟩ := select_cases s q
  · rw [hselect] at h ⊢
    rw [selectLimited_eq h, LimitText.draft, hlayers]
    rfl
  · have hlayers : l.layers.isEmpty = false := by
      obtain ⟨_ | n, _ | m⟩ := l <;> rfl
    have htext : q.limitText s.dialect = { layers := l.layers } := by
      rw [Select.limitText, hlimited, hform]
    rw [hselect, selectLimited_unlimited (s := s.inQuery) hlock, htext, LimitText.draft, hlayers]
    rfl

/-- Clauses in front stand in the whole query: where there are any, it has no set operations. -/
lemma inFront_or_setOps (h : (Draft.limitInFront s q).error? = none) :
    (q.limitText s.dialect).inFront = [] ∨ q.setOps = [] := by
  rw [Draft.limitInFront] at h
  rw [Select.limitText]
  cases hl : q.limited? with
  | none => exact .inl rfl
  | some l =>
    rw [hl, Draft.ofOption] at h
    -- in front of set operations a limit is either not written or refused
    cases hform : s.dialect.limitForm with
    | top =>
      cases hfits : l.fitsTop q with
      | true =>
        rw [Limit.fitsTop, Bool.and_eq_true] at hfits
        exact .inr (List.isEmpty_iff.mp hfits.2)
      | false =>
        dsimp only
        rw [hfits]
        exact .inl rfl
    | firstSkip =>
      rw [hform] at h
      exact .inr (firstSkip_eq h).1
    | _ => exact .inl rfl

end Writers

end Polysql

import Polysql.Proofs.Limit.Text
import Polysql.Render
/-!
The rows that a limited query keeps. Read by what the clauses and conditions in its text mean, each
form of limits cuts the same rows out of all rows of the query (`Limit.Cuts`): those at the
positions that the limit says, up to the greatest number that a limit can name
(`Writers.select_window`).
-/

namespace Polysql

open Writers (ofRank)

/-! ### The rows that are kept -/

/-- What the parts of a query without a limit stand for. -/
structure QueryRows (α : Type) where
  /-- The rows without the set operations. -/
  first : List α
  /-- What a set operation makes of the rows before it. -/
  operate : SetOperation → List α → List α
  /-- The rows in their order. -/
  order : List α → List α

namespace QueryRows

variable {α : Type} (m : QueryRows α) (q : Select)

/-- What the set operations and the order make of the rows without them. -/
def combined (rows : List α) : List α :=
  m.order (q.setOps.foldl (fun rows o => m.operate o rows) rows)

/-- All rows of a query. -/
def all : List α :=
  m.combined q m.first

/-- The rows that the clauses in a query keep. Those in front belong to what they stand in: the
first operand of the set operations, or the whole query if there are none. -/
def kept (t : LimitText) : List α :=
  if q.setOps.isEmpty then RowClause.keep (t.inFront ++ t.atEnd) (m.all q)
  else RowClause.keep t.atEnd (m.combined q (RowClause.keep t.inFront m.first))

lemma kept_eq {t : LimitText} (h : t.inFront = [] ∨ q.setOps = []) :
    m.kept q t = RowClause.keep (t.inFront ++ t.atEnd) (m.all q) := by
  rw [QueryRows.kept]
  split
  next => rfl
  next hsetOps =>
    have hinFront := h.resolve_right fun hnil => hsetOps (List.isEmpty_iff.mpr hnil)
    rw [hinFront]
    rfl

end QueryRows

/-- The rows of a query with its limit. -/
def LimitText.rows {α : Type} (t : LimitText) (q : Select) (m : QueryRows α) : List α :=
  (t.layers.foldr Layer.rows ((m.kept q t).map (·, []))).map Prod.fst

namespace Limit

variable {α : Type} {l : Limit} {all kept : List α}

/-- Rows are cut out of all rows as a limit says, up to the greatest number that it can name. -/
def Cuts (l : Limit) (all kept : List α) : Prop :=
  ∃ k, kept = (all.take k).drop l.skipped ∧
    ∀ r < UInt64.size, r ≤ k ↔ ∀ n ∈ l.count?, r ≤ l.skipped + n.toNat

lemma cuts_of_count {n : UInt64} (h : l.count? = some n) :
    l.Cuts all ((all.drop l.skipped).take n.toNat) := by
  refine ⟨l.skipped + n.toNat, List.take_drop, fun r _ => ?_⟩
  rw [h]
  simp

/-- Without a count, all rows may be kept, or the greatest number of them. -/
lemma cuts_of_none (h : l.count? = none) : l.Cuts all (all.drop l.skipped) ∧
    l.Cuts all ((all.drop l.skipped).take (UInt64.size - 1)) := by
  have hnone (r : Nat) : ∀ n ∈ l.count?, r ≤ l.skipped + n.toNat := by
    rw [h]
    exact nofun
  constructor
  · refine ⟨all.length + UInt64.size, ?_, fun r hr => iff_of_true (by omega) (hnone r)⟩
    rw [List.take_of_length_le (Nat.le_add_right _ _)]
  · exact ⟨l.skipped + (UInt64.size - 1), List.take_drop, fun r hr =>
      iff_of_true (by omega) (hnone r)⟩

/-- The last row that is counted may be beyond what a number can name. -/
lemma cuts_of_lastRow {n m : UInt64} (hcount : l.count? = some n) (hskipped : l.skipped = m.toNat) :
    l.Cuts all ((all.take (lastRow n m)).drop l.skipped) := by
  refine ⟨lastRow n m, rfl, fun r hr => ?_⟩
  rw [hcount, lastRow]
  simp only [Option.mem_some_iff, forall_eq', hskipped]
  omega

/-- The rows up to the greatest number are those at the positions that the limit keeps. -/
lemma Cuts.exists_beyond (h : l.Cuts all kept) : ∃ beyond : List α,
    kept = (((all.take (UInt64.size - 1)).zipIdx 1).filter fun p => l.keeps p.2).map Prod.fst ++
        beyond ∧
      beyond.Sublist (all.drop (UInt64.size - 1)) := by
  obtain ⟨k, rfl, hk⟩ := h
  have hsplit := List.take_append_drop (UInt64.size - 1) all
  have hlength := List.length_take_le (UInt64.size - 1) all
  -- the rows that have a number below `2 ^ 64`, and the others
  generalize all.take (UInt64.size - 1) = named at hsplit hlength
  generalize all.drop (UInt64.size - 1) = others at hsplit
  have hkeeps : ∀ p ∈ named.zipIdx 1,
      l.keeps p.2 = (decide (l.skipped < p.2) && decide (p.2 ≤ k)) := by
    intro p hp
    obtain ⟨-, hlt, -⟩ := List.mem_zipIdx hp
    have hsize : p.2 < UInt64.size := by
      have hpos : 0 < UInt64.size := by decide
      omega
    -- up to there, being among the first `k` is what the count asks for
    have hcount :
        (l.count?.all fun n => decide (p.2 ≤ l.skipped + n.toNat)) = decide (p.2 ≤ k) := by
      rw [Bool.eq_iff_iff, decide_eq_true_iff, hk p.2 hsize, Option.all_eq_true]
      simp only [decide_eq_true_eq, Option.mem_def]
    rw [keeps, hcount]
  refine ⟨(others.take (k - named.length)).drop (l.skipped - (named.take k).length), ?_, ?_⟩
  · rw [← hsplit, List.take_append, List.drop_append, List.filter_congr hkeeps,
      map_fst_filter_zipIdx]
  · exact (List.drop_sublist _ _).trans (List.take_sublist _ _)

/-! ### The forms of limits -/

variable (l) (all)

lemma cuts_keep {cs : List RowClause} (hskipped : (cs.map RowClause.skipped).sum = l.skipped)
    (hcount : cs.findSome? RowClause.count? = l.count?.map UInt64.toNat) :
    l.Cuts all (RowClause.keep cs all) := by
  rw [RowClause.keep, hskipped, hcount]
  cases h : l.count? with
  | none => exact (cuts_of_none h).1
  | some n => exact cuts_of_count h

lemma cuts_limitOffset (f : Family) : l.Cuts all (RowClause.keep (l.limitOffset f) all) := by
  obtain ⟨_ | n, _ | m⟩ := l
  · exact cuts_keep _ _ rfl rfl
  -- no limit, a word for none, or the greatest number that can be written
  · have hunlimited : unlimited f ∈ [[], [.unlimited], [.limit (UInt64.size - 1)]] := by
      cases f <;> decide
    have hskipped (c : RowClause) (hc : c.skipped = 0) :
        ([c, .offset m.toNat].map RowClause.skipped).sum = m.toNat := by
      rw [List.map_cons, List.sum_cons, hc, Nat.zero_add]
      rfl
    change Limit.Cuts _ _ (RowClause.keep (unlimited f ++ [.offset m.toNat]) _)
    simp only [List.mem_cons, List.not_mem_nil, or_false] at hunlimited
    obtain h | h | h := hunlimited
    · rw [h]
      exact cuts_keep _ _ rfl rfl
    · rw [h]
      exact cuts_keep _ _ (hskipped _ rfl) rfl
    · rw [h, List.singleton_append, RowClause.keep, hskipped _ rfl]
      exact (cuts_of_none rfl).2
  · exact cuts_keep _ _ rfl rfl
  · exact cuts_keep _ _ (by simp [RowClause.skipped, skipped, limitOffset]) rfl

lemma cuts_offsetFetch : l.Cuts all (RowClause.keep l.offsetFetch all) := by
  obtain ⟨_ | n, _ | m⟩ := l <;> exact cuts_keep _ _ rfl rfl

lemma cuts_firstSkip : l.Cuts all (RowClause.keep l.firstSkip all) := by
  obtain ⟨_ | n, _ | m⟩ := l <;>
    exact cuts_keep _ _ (by simp [RowClause.skipped, skipped, firstSkip]) rfl

lemma cuts_fromOffset {kept : List α} : l.fromOffset.Cuts all kept ↔ l.Cuts all kept := by
  obtain ⟨n?, _ | m⟩ := l <;> rfl

/-- A `TOP` stands for limits without an offset. -/
lemma cuts_top {q : Select} (h : l.fitsTop q = true) :
    l.Cuts all (RowClause.keep (l.count?.map fun n => .top n.toNat).toList all) := by
  rw [fitsTop, Bool.and_eq_true] at h
  obtain ⟨_ | n, _ | m⟩ := l
  · exact cuts_keep _ _ rfl rfl
  · cases h.1
  · exact cuts_keep _ _ rfl rfl
  · cases h.1

/-- The queries around a limited one. -/
lemma cuts_layers :
    l.Cuts all ((l.layers.foldr Layer.rows (all.map (·, []))).map Prod.fst) := by
  have hnumbered (n? : Option Nat) (m : Nat) := Layer.map_fst_rows_window all n? m
  obtain ⟨_ | n, _ | m⟩ := l
  · exact hnumbered none 0 ▸ (cuts_of_none rfl).1
  · exact hnumbered none m.toNat ▸ (cuts_of_none rfl).1
  · exact Layer.map_fst_rows_upTo all n.toNat true ▸ cuts_of_count rfl
  · exact hnumbered (some (lastRow n m)) m.toNat ▸ cuts_of_lastRow rfl rfl

end Limit

namespace Writers

variable {α : Type} {s : Scope} {q : Select}

/-- The rows of a query with its limit. -/
lemma cuts_rows (h : (Draft.limitInFront s q).error? = none) (m : QueryRows α) :
    q.limitOrEmpty.Cuts (m.all q) ((q.limitText s.dialect).rows q m) := by
  rw [LimitText.rows, m.kept_eq q (inFront_or_setOps h), Select.limitText]
  generalize m.all q = all
  obtain ⟨hlimited, hempty⟩ | ⟨hlimited, -⟩ := q.limited?_cases
  · rw [hlimited, hempty]
    change Limit.Cuts _ _ ((all.map (·, [])).map Prod.fst)
    rw [Layer.map_fst_unnumbered]
    exact (Limit.cuts_of_none rfl).1
  · rw [hlimited]
    generalize q.limitOrEmpty = l
    -- all forms but the last keep rows as they are, without numbers beside them
    have hclauses {cs : List RowClause} (hcs : l.Cuts all (RowClause.keep cs all)) :
        l.Cuts all (((RowClause.keep cs all).map (·, ([] : List Nat))).map Prod.fst) := by
      rwa [Layer.map_fst_unnumbered]
    cases s.dialect.limitForm with
    | limitOffset => exact hclauses (l.cuts_limitOffset all s.dialect.family)
    | fetchNext => exact hclauses (l.cuts_offsetFetch all)
    | top =>
      dsimp only
      cases hfits : l.fitsTop q with
      | true => obtain ⟨_ | n, m?⟩ := l <;> exact hclauses (Limit.cuts_top _ all hfits)
      | false =>
        exact hclauses ((l.cuts_fromOffset all).mp (l.fromOffset.cuts_offsetFetch all))
    | firstSkip => obtain ⟨_ | n, _ | m⟩ := l <;> exact hclauses (Limit.cuts_firstSkip _ all)
    | rowNumber => exact l.cuts_layers all

/-- **The window of a limit.** A query that can be drafted for an engine is drafted as the query
without its limit, with clauses in it or queries around it that limit its rows; an empty limit is
not written at all. Read as what they say in SQL, the clauses keep the rows at the positions that
the limit keeps, whatever rows there are, among those up to the greatest number that a limit can
name. -/
theorem select_window (s : Scope) (q : Select) (h : (ofRank.select s q).error? = none) :
    let t := q.limitText s.dialect
    ofRank.select s q = t.draft s q ∧ t.IsRead s ∧
      ofRank.select s { q with limit? := none } = ({} : LimitText).draft s q ∧
      (q.limitOrEmpty = ⟨none, none⟩ → t = {}) ∧
      ∀ {α : Type} (m : QueryRows α), ∃ beyond : List α,
        t.rows q m =
            (((m.all q).take (2 ^ 64 - 1)).zipIdx 1 |>.filter
              fun p => q.limitOrEmpty.keeps p.2).map Prod.fst ++ beyond ∧
          beyond.Sublist ((m.all q).drop (2 ^ 64 - 1)) := by
  intro t
  obtain ⟨hlock, hinFront⟩ := error?_select h
  exact ⟨select_eq_limitText h, t.isRead s, select_unlimited_eq hlock,
    q.limitText_of_empty s.dialect, fun m => (cuts_rows hinFront m).exists_beyond⟩

/-- The number of the last row is beyond what a number can name, and no row is lost. -/
theorem select_window_saturated :
    let r : Renderer := { dialect := .oracle11g, settings := { quoting := .never } }
    let s : Scope := { target := r.target }
    let q : Select :=
      { fields := [⟨.column (.ofText "a"), none⟩], tables := [.ofName (.ofText "t")],
        limit? := some ⟨some 18446744073709551615, some 1⟩ }
    let m : QueryRows Nat := ⟨[5, 6, 7], fun _ rows => rows, id⟩
    (ofRank.select s q).error? = none ∧
      (r.render (.select q)).map Rendered.sql =
        .ok ("SELECT * FROM (SELECT q.*, ROWNUM rn FROM (SELECT a FROM t) q " ++
          "WHERE ROWNUM <= 18446744073709551615) WHERE rn > 1") ∧
      (q.limitText s.dialect).rows q m = [6, 7] := by
  intro r s q m
  have herror : (ofRank.select s q).error? = none := by decide +kernel
  refine ⟨herror, by decide +kernel, ?_⟩
  obtain ⟨-, -, -, -, hrows⟩ := select_window s q herror
  obtain ⟨beyond, hkept, hbeyond⟩ := hrows m
  have hnone : (m.all q).drop (2 ^ 64 - 1) = [] := by decide +kernel
  have hnamed : (((m.all q).take (2 ^ 64 - 1)).zipIdx 1 |>.filter
      fun p => q.limitOrEmpty.keeps p.2).map Prod.fst = [6, 7] := by
    decide +kernel
  rw [hnone, List.sublist_nil] at hbeyond
  rw [hkept, hnamed, hbeyond, List.append_nil]

end Writers

end Polysql

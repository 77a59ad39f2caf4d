import Mathlib.Logic.Function.Iterate
import Polysql.Proofs.Draft.Statement
import Polysql.Proofs.Place.Level
/-!
Why drafting ends. A part of a statement is drafted by means of the drafts of what it contains and
of the detours that replace it, and these may be larger than the part. So the drafts of all parts
are a solution of one equation, `w.next = w`. Whatever a draft depends on has a lower rank
(`Writers.write_next_congr`); so no chain of parts and detours goes on forever, and the equation has
one solution, which every level of writers has reached for the parts of its rank, whatever it
started from (`Writers.drafting_ends`).
-/

namespace Polysql

/-- A part of a statement that has a draft of its own. -/
inductive Part where
  | expr (e : Expr)
  | call (c : Call)
  | condition (c : Condition)
  | select (q : Select)
  | table (t : Table)
  | statement (stmt : Statement)

namespace Part

/-- The rank of a part. -/
def rank : Part → Nat
  | expr e => e.rank
  | call c => c.rank
  | condition c => c.rank
  | select q => q.rank
  | table t => t.rank
  | statement stmt => stmt.rank

lemma one_le_rank (p : Part) : 1 ≤ p.rank := by
  cases p with
  | expr e => exact e.one_le_rank
  | call c => exact Nat.lt_of_le_of_lt (Nat.zero_le _) c.rankOfExprs_args_lt
  | condition c => exact c.one_le_rank
  | select q => exact Nat.le_of_lt q.one_lt_rank
  | table t => exact t.one_le_rank
  | statement stmt =>
    obtain ⟨k, hk⟩ := stmt.exists_rank_eq
    exact Nat.le_trans (Nat.le_add_left 1 k) (Nat.le_of_eq hk.symm)

/-- A part is a step above what it is drafted by. -/
lemma exists_rank_eq (p : Part) : ∃ n, p.rank = n + 1 :=
  ⟨p.rank - 1, (Nat.sub_add_cancel p.one_le_rank).symm⟩

end Part

namespace Writers

/-! ### One step -/

/-- The draft of a part. -/
def write (w : Writers) (s : Scope) : Part → Draft
  | .expr e => w.expr s e
  | .call c => w.call s c
  | .condition c => w.condition s c
  | .select q => w.select s q
  | .table t => w.table s t
  | .statement stmt => w.statement s stmt

/-- The writers with given drafts. -/
def ofDrafts (draft : Scope → Part → Draft) : Writers :=
  ⟨fun s e => draft s (.expr e), fun s c => draft s (.call c), fun s c => draft s (.condition c),
    fun s q => draft s (.select q), fun s t => draft s (.table t),
    fun s stmt => draft s (.statement stmt)⟩

@[simp] lemma write_ofDrafts (draft : Scope → Part → Draft) (s : Scope) (p : Part) :
    (ofDrafts draft).write s p = draft s p := by
  cases p <;> rfl

lemma eq_of_write {w w' : Writers} (h : ∀ s p, w.write s p = w'.write s p) : w = w' := by
  cases w
  cases w'
  simp only [mk.injEq]
  exact ⟨funext₂ fun s e => h s (.expr e), funext₂ fun s c => h s (.call c),
    funext₂ fun s c => h s (.condition c), funext₂ fun s q => h s (.select q),
    funext₂ fun s t => h s (.table t), funext₂ fun s stmt => h s (.statement stmt)⟩

/-- The drafts of all parts, by means of the drafts of what they lead to. -/
def next (w : Writers) : Writers :=
  ⟨w.draftExpr, w.draftCall, w.draftCondition, w.draftSelect, w.draftTable, w.draftStatement⟩

/-- The parts below a rank have the same drafts. -/
def AgreeBelow (w w' : Writers) (n : Nat) : Prop :=
  ∀ p : Part, p.rank < n → ∀ s, w.write s p = w'.write s p

section

variable {w w' : Writers} {n : Nat}

lemma AgreeBelow.moves (h : w.AgreeBelow w' (n + 1)) : Moves .stay w w' n where
  -- the place stays as it is, and each part is of a lower rank
  expr s e he := by
    rw [Move.stay_scope]
    exact h (.expr e) (Nat.lt_succ_of_le he) s
  call s c hc := by
    rw [Move.stay_scope]
    exact h (.call c) (Nat.lt_succ_of_le hc) s
  condition s c hc := by
    rw [Move.stay_scope]
    exact h (.condition c) (Nat.lt_succ_of_le hc) s
  select s q hq := by
    rw [Move.stay_scope]
    exact h (.select q) (Nat.lt_succ_of_le hq) s
  table s t ht := by
    rw [Move.stay_scope]
    exact h (.table t) (Nat.lt_succ_of_le ht) s

/-- **One step.** The draft of a part is decided by the drafts of parts of lower rank. -/
theorem write_next_congr {p : Part} (h : w.AgreeBelow w' p.rank) (s : Scope) :
    w.next.write s p = w'.next.write s p := by
  obtain ⟨n, hn⟩ := p.exists_rank_eq
  rw [hn] at h
  have hw := h.moves
  have hle := Nat.le_of_eq hn
  -- what stands next is drafted from parts of lower ranks, on which both agree
  cases p with
  | expr e => exact (hw.draftExpr s hle).trans (by rw [Move.stay_scope]; rfl)
  | call c => exact (hw.draftCall s hle).trans (by rw [Move.stay_scope]; rfl)
  | condition c => exact (hw.draftCondition s hle).trans (by rw [Move.stay_scope]; rfl)
  | select q => exact (hw.draftSelect s hle).trans (by rw [Move.stay_scope]; rfl)
  | table t => exact (hw.draftTable s hle).trans (by rw [Move.stay_scope]; rfl)
  | statement stmt =>
    exact hw.draftStatement_eq hle
      (fun stmt' h' s => h (.statement stmt') (Nat.lt_succ_of_le h') s) s

lemma AgreeBelow.next (h : w.AgreeBelow w' n) : w.next.AgreeBelow w'.next (n + 1) :=
  fun _ hp => write_next_congr fun q hq => h q (by omega)

end

end Writers

namespace Part

/-- The draft of a part depends on that of another: it is not the same for all drafts of the other
part, when the remaining parts keep theirs. -/
def Reenters (p q : Part) : Prop :=
  ∃ w w' : Writers, (∀ r ≠ q, ∀ s, w.write s r = w'.write s r) ∧
    ∃ s, w.next.write s p ≠ w'.next.write s p

/-- The rank goes down from a part to what its draft depends on. -/
lemma Reenters.rank_lt {p q : Part} (h : p.Reenters q) : q.rank < p.rank := by
  obtain ⟨w, w', hsame, s, hne⟩ := h
  by_contra hle
  refine hne (Writers.write_next_congr (fun r hr => hsame r ?_) s)
  rintro rfl
  exact hle hr

lemma wellFounded_reenters : WellFounded fun q p : Part => p.Reenters q :=
  Subrelation.wf (fun h => h.rank_lt) (measure rank).wf

/-- A chain of parts, each depending on the next, is no longer than the rank of the first one. -/
lemma length_lt_rank {p : Part} {ps : List Part} (h : (p :: ps).IsChain Reenters) :
    ps.length < p.rank :=
  length_lt_rank_of_isChain (fun _ _ h => h.rank_lt) one_le_rank h

/-- On an engine without `XOR`, the draft of an exclusive junction depends on that of its detour,
where both operands occur twice. -/
lemma reenters_expandXor (c d : Condition) :
    (condition (.xor c d)).Reenters (condition (c.expandXor d)) := by
  classical
  refine ⟨.ofDrafts fun _ _ => .empty,
    .ofDrafts fun _ r => if r = condition (c.expandXor d) then .text "x" else .empty,
    fun r hr s => by simp [hr], { target := ⟨.postgres, none, .ignore, .ignore⟩ }, ?_⟩
  have hdetour (w : Writers) :
      w.next.write { target := ⟨.postgres, none, .ignore, .ignore⟩ } (condition (.xor c d)) =
        w.write { target := ⟨.postgres, none, .ignore, .ignore⟩ } (condition (c.expandXor d)) :=
    rfl
  rw [hdetour, hdetour, Writers.write_ofDrafts, Writers.write_ofDrafts, if_pos rfl]
  exact nofun

end Part

namespace Writers

/-! ### All steps -/

/-- After some steps, nothing is left in the parts of that rank of what the steps started from. -/
lemma agreeBelow_iterate (w w' : Writers) :
    ∀ n : Nat, (next^[n] w).AgreeBelow (next^[n] w') (n + 1)
  | 0 => fun p hp => absurd p.one_le_rank (by omega)
  | n + 1 => by
    rw [Function.iterate_succ_apply', Function.iterate_succ_apply']
    exact (agreeBelow_iterate w w' n).next

/-- The levels are the steps from writers that draft nothing. -/
lemma level_eq_iterate : ∀ n : Nat, level n = next^[n] (level 0)
  | 0 => rfl
  | n + 1 => by
    rw [Function.iterate_succ_apply', ← level_eq_iterate n]
    rfl

/-- The drafts of all parts, each at the level of its rank. -/
def ofRank : Writers :=
  ofDrafts fun s p => (level p.rank).write s p

/-- Every level has reached the draft of a part if its rank is no higher, whatever the levels are
built on. -/
lemma write_iterate (below : Writers) {n : Nat} {p : Part} (h : p.rank ≤ n) (s : Scope) :
    (next^[n] below).write s p = ofRank.write s p := by
  obtain ⟨k, rfl⟩ := Nat.exists_eq_add_of_le h
  rw [ofRank, write_ofDrafts, level_eq_iterate, Function.iterate_add_apply]
  exact agreeBelow_iterate _ _ _ p (Nat.lt_succ_self _) s

lemma next_ofRank : ofRank.next = ofRank := by
  refine eq_of_write fun s p => ?_
  obtain ⟨n, hn⟩ := p.exists_rank_eq
  have hstep : ofRank.next.write s p = (next^[n + 1] ofRank).write s p := by
    rw [Function.iterate_succ_apply']
    refine write_next_congr (fun q hq s => ?_) s
    exact (write_iterate ofRank (by omega) s).symm
  rw [hstep, write_iterate ofRank (Nat.le_of_eq hn)]

section

variable (s : Scope)

lemma expr_ofRank (e : Expr) : ofRank.expr s e = ofRank.draftExpr s e :=
  congrFun (congrFun (congrArg Writers.expr next_ofRank.symm) s) e

lemma call_ofRank (c : Call) : ofRank.call s c = ofRank.draftCall s c :=
  congrFun (congrFun (congrArg Writers.call next_ofRank.symm) s) c

lemma condition_ofRank (c : Condition) : ofRank.condition s c = ofRank.draftCondition s c :=
  congrFun (congrFun (congrArg Writers.condition next_ofRank.symm) s) c

lemma select_ofRank (q : Select) : ofRank.select s q = ofRank.draftSelect s q :=
  congrFun (congrFun (congrArg Writers.select next_ofRank.symm) s) q

lemma table_ofRank (t : Table) : ofRank.table s t = ofRank.draftTable s t :=
  congrFun (congrFun (congrArg Writers.table next_ofRank.symm) s) t

lemma statement_ofRank (stmt : Statement) :
    ofRank.statement s stmt = ofRank.draftStatement s stmt :=
  congrFun (congrFun (congrArg Writers.statement next_ofRank.symm) s) stmt

end

/-- The draft of a query as a statement. -/
lemma ofStatement_select (target : Target) (q : Select) :
    Draft.ofStatement target (.select q) = ofRank.select { target } q :=
  congrFun (congrFun (congrArg Writers.statement next_ofRank.symm) { target }) (.select q)

/-- These drafts bind values and end statements as their places allow. -/
lemma ofRank_settled : ofRank.Settled where
  expr s e := (level_settled _).expr s e
  call s c := (level_settled _).call s c
  condition s c := (level_settled _).condition s c
  select s q := (level_settled _).select s q
  table s t := (level_settled _).table s t
  statement s stmt := (level_settled _).statement s stmt

/-- **Drafting ends.** The draft of a part is decided by the drafts of parts of lower rank, so that
no chain of parts and detours goes on for more steps than the rank of the first part. The drafts of
all parts are the only solution of their equation; as many steps as the rank of a part reach its
draft, whatever they start from; and these are the drafts of statements. -/
theorem drafting_ends :
    (∀ (w w' : Writers) (p : Part), w.AgreeBelow w' p.rank →
      ∀ s, w.next.write s p = w'.next.write s p) ∧
    (∀ p q : Part, p.Reenters q → q.rank < p.rank) ∧
    WellFounded (fun q p : Part => p.Reenters q) ∧
    (∀ (p : Part) (ps : List Part), (p :: ps).IsChain Part.Reenters → ps.length < p.rank) ∧
    ∃ w : Writers, w.next = w ∧ (∀ w' : Writers, w'.next = w' → w' = w) ∧
      (∀ (below : Writers) (p : Part) (n : Nat), p.rank ≤ n →
        ∀ s, (next^[n] below).write s p = w.write s p) ∧
      ∀ (target : Target) (stmt : Statement),
        Draft.ofStatement target stmt = w.statement { target } stmt := by
  refine ⟨fun w w' p h => write_next_congr h, fun p q h => h.rank_lt, Part.wellFounded_reenters,
    fun p ps h => Part.length_lt_rank h, ofRank, next_ofRank, fun w hw => eq_of_write fun s p => ?_,
    fun below p n h => write_iterate below h, fun target stmt => rfl⟩
  rw [← write_iterate w (Nat.le_refl p.rank) s, Function.iterate_fixed hw]

/-- The detour of an exclusive junction has a lower rank, although it is larger. -/
theorem drafting_ends_xor :
    (Part.condition (.xor .always .never)).Reenters
        (.condition (Condition.expandXor .always .never)) ∧
      (Part.condition (Condition.expandXor .always .never)).rank <
        (Part.condition (.xor .always .never)).rank ∧
      sizeOf (Condition.xor .always .never) < sizeOf (Condition.expandXor .always .never) :=
  ⟨Part.reenters_expandXor _ _, drafting_ends.2.1 _ _ (Part.reenters_expandXor _ _), by decide⟩

end Writers

end Polysql

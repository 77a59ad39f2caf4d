import Polysql.Proofs.Joining.Query
import Polysql.Proofs.Reading.Combination
import Polysql.Proofs.Reading.Token
import Polysql.Render
/-!
Queries with set operations. `Writers.compound` says what such a query is: its operations applied
from left to right, with each operand that has clauses of its own in parentheses. The draft of the
query consists of the tokens of that combination (`Writers.select_eq_compound`), and they are read
as the combination itself if and only if no `INTERSECT` comes after another operation
(`Select.IntersectsFirst`, `Renderer.read_compound_iff`).
-/

namespace Polysql

/-! ### Operations from left to right -/

namespace Combination

/-- Operations applied one after the other, each to what is there so far and its own operand. -/
def chain (first : Combination) (rest : List (SetOperator × Combination)) : Combination :=
  rest.foldl (fun left p => operation p.1 left p.2) first

lemma tokens_chain (first : Combination) (rest : List (SetOperator × Combination)) :
    (chain first rest).tokens =
      first.tokens ++ rest.flatMap fun p => .operator p.1 :: p.2.tokens := by
  induction rest generalizing first with
  | nil => exact (List.append_nil _).symm
  | cons p rest ih =>
    change (chain (operation p.1 first p.2) rest).tokens = _
    rw [ih, tokens, List.flatMap_cons, List.append_assoc]

/-- A chain fits if its operations bind looser and looser. -/
lemma fits_chain (first : Combination) {rest : List (SetOperator × Combination)}
    (hoperands : ∀ p ∈ rest, p.2.IsOperand) :
    (chain first rest).Fits ↔ first.Fits ∧ (∀ p ∈ rest, first.LeftOf p.1 ∧ p.2.Fits) ∧
      rest.Pairwise fun p p' => p'.1.level ≤ p.1.level := by
  -- for any first operand, as the operation so far is the first operand of the rest
  induction rest generalizing first with
  | nil => simp [chain]
  | cons p rest ih =>
    obtain ⟨hoperand, hoperands⟩ := List.forall_mem_cons.mp hoperands
    change (chain (operation p.1 first p.2) rest).Fits ↔ _
    rw [ih _ hoperands, List.forall_mem_cons, List.pairwise_cons]
    constructor
    · rintro ⟨⟨hfirst, hright, hleft, -⟩, hrest, hpairs⟩
      refine ⟨hfirst, ⟨⟨hleft, hright⟩, fun p' hmem => ⟨?_, (hrest p' hmem).2⟩⟩,
        fun p' hmem => (hrest p' hmem).1, hpairs⟩
      -- the levels fall along the chain, so an operation on the left is in place all the more
      cases first with
      | operation o l r => exact Nat.le_trans (hrest p' hmem).1 hleft
      | _ => trivial
    · rintro ⟨hfirst, ⟨⟨hleft, hright⟩, hrest⟩, hlevels, hpairs⟩
      exact ⟨⟨hfirst, hright, hleft, hoperand.above _⟩,
        fun p' hmem => ⟨hlevels p' hmem, (hrest p' hmem).2⟩, hpairs⟩

end Combination

/-! ### What queries are -/

/-- A combination of queries, with what applies to all of it. -/
structure Compound where
  /-- What stands in front: named queries. -/
  front : Draft
  /-- The combination. -/
  combination : Combination
  /-- What stands at the end: an order, a limit, a lock. -/
  ending : Draft

/-- The draft of a combination with what applies to all of it. -/
def Compound.draft (f : Family) (c : Compound) : Draft :=
  c.front ++ SetToken.drafts f c.combination.tokens ++ c.ending

namespace Writers

/-- The operand of a set operation. If it has clauses of its own, it stands in parentheses. -/
def setOperand (w : Writers) (compound : Scope → Select → Compound) (s : Scope) (q : Select) :
    Combination :=
  if q.isCompound then
    let c := compound s.inQuery q
    .group c.front c.combination c.ending
  else
    .query (w.body s.withoutFieldNames q false)

/-- A query with its set operations applied from left to right. -/
def applied (w : Writers) (compound : Scope → Select → Compound) (s : Scope) (q : Select) :
    Compound where
  front := .ofOption (w.withClause s) q.with?
  combination := .chain (.query (w.body s q true))
    (q.setOps.map fun o => (⟨o.op, o.all, s.depth⟩, w.setOperand compound s o.select))
  ending := w.orderBy s q.orderBy ++ Draft.limitAtEnd s q ++
    Draft.onlyIf q.forUpdate (s.clause "FOR UPDATE")

/-- What a query is, by the writers of a level. -/
def compound : Nat → Scope → Select → Compound
  | 0, _, _ => ⟨.empty, .query (.fail (.ofCause .tooDeep)), .empty⟩
  | n + 1, s, q => (level n).applied (compound n) s q

end Writers

/-- No `INTERSECT` comes after another operation, neither among those of the query nor among those
of an operand at any depth. -/
inductive Select.IntersectsFirst : Select → Prop
  | intro {q : Select}
      (h : q.setOps.Pairwise fun o o' => o'.op = .intersect → o.op = .intersect)
      (hoperands : ∀ o ∈ q.setOps, o.select.IntersectsFirst) : IntersectsFirst q

lemma Select.intersectsFirst_iff {q : Select} : q.IntersectsFirst ↔
    (q.setOps.Pairwise fun o o' => o'.op = .intersect → o.op = .intersect) ∧
      ∀ o ∈ q.setOps, o.select.IntersectsFirst :=
  ⟨fun ⟨h, hoperands⟩ => ⟨h, hoperands⟩, fun ⟨h, hoperands⟩ => ⟨h, hoperands⟩⟩

/-! ### The draft of a query -/

namespace SetToken

lemma drafts_chain (f : Family) (first : Combination) (rest : List (SetOperator × Combination)) :
    drafts f (first.chain rest).tokens = drafts f first.tokens ++
      Draft.concat (rest.map fun p => (operator p.1).draft f ++ drafts f p.2.tokens) := by
  rw [Combination.tokens_chain, drafts_append]
  congr 1
  induction rest with
  | nil => rfl
  | cons p rest ih =>
    rw [List.flatMap_cons, drafts_append, drafts_cons, ih]
    rfl

end SetToken

namespace Writers

variable {s : Scope} {q : Select}

/-- The set operations that are drafted are those that the engine has. -/
lemma setOperation_eq {w : Writers} {o : SetOperation} (h : (w.setOperation s o).error? = none) :
    w.setOperation s o = (SetToken.operator ⟨o.op, o.all, s.depth⟩).draft s.family ++
      (if o.select.isCompound then w.subquery s o.select
        else w.body s.withoutFieldNames o.select false) := by
  rw [setOperation] at h ⊢
  split at h
  next => cases h
  next hop =>
    split at h
    next => cases h
    next hall =>
      rw [if_neg hop, if_neg hall]
      rfl

/-- The parts of a query with a limit that the engine can write. -/
lemma level_select_eq {n : Nat} (hform : s.dialect.limitForm ≠ .rowNumber)
    (h : ((level (n + 1)).select s q).error? = none) :
    (level (n + 1)).select s q =
      Draft.ofOption ((level n).withClause s) q.with? ++ (level n).body s q true ++
        Draft.concat (q.setOps.map ((level n).setOperation s)) ++ (level n).orderBy s q.orderBy ++
        Draft.limitAtEnd s q ++ Draft.onlyIf q.forUpdate (s.clause "FOR UPDATE") := by
  have hlimited : (level (n + 1)).select s q = (level n).selectLimited s q := by
    change (level n).draftSelect s q = _
    rw [draftSelect]
    split
    next => rfl
    next => rw [if_neg hform]
  rw [hlimited, selectLimited] at h ⊢
  split at h
  next => cases h
  next hlock => rw [if_neg hlock]

lemma error?_setOperation {n : Nat} (hform : s.dialect.limitForm ≠ .rowNumber)
    (h : ((level (n + 1)).select s q).error? = none) :
    ∀ o ∈ q.setOps, ((level n).setOperation s o).error? = none := by
  rw [level_select_eq hform h] at h
  simp only [Draft.error?_append, Draft.error?_concat, List.forall_mem_map] at h
  exact h.1.1.1.2

/-- An operand in parentheses is drafted as a query inside of the other one. -/
lemma error?_select_of_setOperation {w : Writers} {o : SetOperation}
    (h : (w.setOperation s o).error? = none) (hcompound : o.select.isCompound = true) :
    (w.select s.inQuery o.select).error? = none := by
  rw [setOperation_eq h, if_pos hcompound, subquery] at h
  simp only [Draft.error?_append] at h
  exact h.2.1.2

/-- The tokens of an operand are its draft, in parentheses or not. -/
lemma drafts_setOperand {w : Writers} {compound : Scope → Select → Compound}
    (h : q.isCompound = true → w.select s.inQuery q = (compound s.inQuery q).draft s.family) :
    SetToken.drafts s.family (w.setOperand compound s q).tokens =
      if q.isCompound then w.subquery s q else w.body s.withoutFieldNames q false := by
  rw [setOperand]
  split
  next hcompound =>
    rw [subquery, h hcompound, Compound.draft, Combination.tokens, SetToken.drafts_cons,
      SetToken.drafts_append, SetToken.drafts_singleton]
    simp only [SetToken.draft, Draft.append_assoc]
  next => rw [Combination.tokens, SetToken.drafts_singleton, SetToken.draft]

/-- The draft of a query consists of the tokens of its combination. -/
lemma select_eq_compound {n : Nat} (hform : s.dialect.limitForm ≠ .rowNumber)
    (h : ((level n).select s q).error? = none) :
    (level n).select s q = (compound n s q).draft s.family := by
  -- an operand with operations of its own is a compound of the level below
  induction n generalizing s q with
  | zero => cases h
  | succ n ih =>
    have hoperations : q.setOps.map ((level n).setOperation s) = q.setOps.map fun o =>
        (SetToken.operator ⟨o.op, o.all, s.depth⟩).draft s.family ++
          SetToken.drafts s.family ((level n).setOperand (compound n) s o.select).tokens := by
      refine List.map_congr_left fun o hmem => ?_
      have hoperation := error?_setOperation hform h o hmem
      rw [setOperation_eq hoperation, drafts_setOperand fun hcompound =>
        ih (s := s.inQuery) hform (error?_select_of_setOperation hoperation hcompound)]
    have hchain : SetToken.drafts s.family (compound (n + 1) s q).combination.tokens =
        (level n).body s q true ++ Draft.concat (q.setOps.map ((level n).setOperation s)) := by
      rw [hoperations, compound, applied, SetToken.drafts_chain, List.map_map, Combination.tokens,
        SetToken.drafts_singleton]
      rfl
    rw [level_select_eq hform h, Compound.draft, hchain]
    simp only [compound, applied, Draft.append_assoc]

/-! ### How it is read -/

/-- The combination that a query is fits if its `INTERSECT`s come first. -/
lemma fits_compound_iff {n : Nat} (hform : s.dialect.limitForm ≠ .rowNumber)
    (h : ((level n).select s q).error? = none) :
    (compound n s q).combination.Fits ↔ q.IntersectsFirst := by
  induction n generalizing s q with
  | zero => cases h
  | succ n ih =>
    have hoperand (q : Select) : ((level n).setOperand (compound n) s q).IsOperand := by
      rw [setOperand]
      split <;> trivial
    have hfits (o) (hmem : o ∈ q.setOps) :
        ((level n).setOperand (compound n) s o.select).Fits ↔ o.select.IntersectsFirst := by
      rw [setOperand]
      split
      next hcompound =>
        exact ih (s := s.inQuery) hform
          (error?_select_of_setOperation (error?_setOperation hform h o hmem) hcompound)
      next hcompound =>
        -- a query that needs no parentheses has no set operations
        obtain ⟨-, hnone, -⟩ := Select.isCompound_eq_false_iff.mp (Bool.eq_false_iff.mpr hcompound)
        rw [Select.intersectsFirst_iff, hnone]
        simp [Combination.Fits]
    rw [compound, applied, Combination.fits_chain _ (List.forall_mem_map.mpr fun o _ => hoperand _),
      Select.intersectsFirst_iff, List.forall_mem_map, List.pairwise_map]
    simp only [SetOperator.level_le_iff, Combination.Fits, Combination.LeftOf, true_and]
    rw [and_comm]
    exact and_congr_right fun _ => forall₂_congr hfits

end Writers

namespace Renderer

variable (r : Renderer) (bound : List Parameter) (q : Select)

/-- What a query is, where it is a statement of its own. -/
def compound : Compound :=
  Writers.compound q.rank { target := r.target } q

variable {r bound q}

lemma error?_select_of_write (h : (r.write bound (.select q)).error? = none) :
    ((Writers.level q.rank).select { target := r.target } q).error? = none := by
  rw [write, if_pos (show (Statement.select q).isExecutable = true from rfl),
    Draft.ofStatement_select] at h
  exact (Option.or_eq_none_iff.mp h).2

/-- What is written of a query are the tokens of its combination. -/
lemma write_eq_compound (hform : r.dialect.limitForm ≠ .rowNumber)
    (h : (r.write bound (.select q)).error? = none) :
    r.write bound (.select q) =
      r.style.write (.start bound) ((r.compound q).draft r.dialect.family) := by
  have hselect := Writers.select_eq_compound (s := { target := r.target }) hform
    (error?_select_of_write h)
  rw [write, if_pos (show (Statement.select q).isExecutable = true from rfl),
    Draft.ofStatement_select, hselect]
  rfl

end Renderer

/-- **Set operations keep their order where each `INTERSECT` comes first.** A query that can be
written is written as the tokens of what it is: its operations applied from left to right, and
operands with clauses of their own in parentheses. An engine on which `INTERSECT` binds tighter than
`UNION` and `EXCEPT` reads them as that if and only if no `INTERSECT` comes after another
operation. The engine that writes a limit around its query is none of these. -/
theorem Renderer.read_compound_iff (r : Renderer) (bound : List Parameter) (q : Select)
    (hform : r.dialect.limitForm ≠ .rowNumber)
    (h : (r.write bound (.select q)).error? = none) :
    let c := (r.compound q).combination
    r.write bound (.select q) =
        r.style.write (.start bound) ((r.compound q).draft r.dialect.family) ∧
      (Combination.read c.tokens = some c ↔ q.IntersectsFirst) :=
  ⟨write_eq_compound hform h, Combination.read_iff.trans
    (Writers.fits_compound_iff hform (error?_select_of_write h))⟩

/-- An `INTERSECT`, and then a `UNION` with a query in parentheses. -/
theorem Renderer.read_compound_intersect_union :
    let r : Renderer := { dialect := .postgres }
    let number (n : Nat) : Select := { fields := [⟨.number n, none⟩] }
    let nested : Select := { number 3 with setOps := [⟨.except, false, number 4⟩] }
    let q : Select :=
      { number 1 with setOps := [⟨.intersect, true, number 2⟩, ⟨.union, false, nested⟩] }
    let c := (r.compound q).combination
    r.dialect.limitForm ≠ .rowNumber ∧ (r.write [] (.select q)).error? = none ∧
      (r.write [] (.select q)).text =
        "SELECT 1 INTERSECT ALL SELECT 2 UNION (SELECT 3 EXCEPT SELECT 4)" ∧
      Combination.read c.tokens = some c := by
  intro r number nested q c
  have hplain (n : Nat) : (number n).IntersectsFirst := .intro .nil nofun
  have hnested : nested.IntersectsFirst :=
    .intro (List.pairwise_singleton _ _) (List.forall_mem_singleton.mpr (hplain 4))
  have hfirst : q.IntersectsFirst := by
    refine .intro ?_ (List.forall_mem_cons.mpr ⟨hplain 2, List.forall_mem_singleton.mpr hnested⟩)
    exact List.pairwise_pair.mpr fun _ => rfl
  have hform : r.dialect.limitForm ≠ .rowNumber := by decide
  have herror : (r.write [] (.select q)).error? = none := by decide +kernel
  refine ⟨hform, herror, by decide +kernel, ?_⟩
  exact (Renderer.read_compound_iff r [] q hform herror).2.mpr hfirst

/-- A `UNION` and then an `INTERSECT`. In the text the last two queries are intersected first, and a
row of the first query alone comes once of that, though it does not come of the query that is
written. -/
theorem Renderer.read_compound_union_intersect :
    let r : Renderer := { dialect := .postgres, settings := { quoting := .never } }
    let from_ (column table : String) : Select :=
      { fields := [⟨.column (.ofTexts [column]), none⟩],
        tables := [.named ⟨.ofTexts [table], none, []⟩] }
    let q : Select :=
      { from_ "a" "t" with
        setOps := [⟨.union, false, from_ "b" "u"⟩, ⟨.intersect, false, from_ "c" "v"⟩] }
    let c := (r.compound q).combination
    let mentions (name : String) : Piece → Bool
      | .name p => p.text == name
      | _ => false
    let count := Combination.denote (fun d => if d.pieces.any (mentions "a") then 1 else 0)
      (fun _ _ n => n) Combination.rowCount
    (r.render (.select q)).map Rendered.sql =
        .ok "SELECT a FROM t UNION SELECT b FROM u INTERSECT SELECT c FROM v" ∧
      r.write [] (.select q) =
        r.style.write (.start []) ((r.compound q).draft r.dialect.family) ∧
      (Combination.read c.tokens).map count = some 1 ∧ count c = 0 ∧
      Combination.read c.tokens ≠ some c := by
  intro r from_ q c mentions count
  have hread : (Combination.read c.tokens).map count = some 1 := by decide +kernel
  have hwritten : count c = 0 := by decide +kernel
  have hcompound : r.write [] (.select q) =
      r.style.write (.start []) ((r.compound q).draft r.dialect.family) :=
    Renderer.write_eq_compound (by decide) (by decide +kernel)
  refine ⟨by decide +kernel, hcompound, hread, hwritten, fun hsame => ?_⟩
  rw [hsame, Option.map_some, hwritten] at hread
  cases hread

end Polysql

import Polysql.Proofs.Place.Descent
import Polysql.Proofs.Place.Subquery

/-!
Operands of set operations. A query that has no clauses for several operands is drafted on a shorter
path as an operand than on its own: at a place where what is selected loses its alias, and without
what follows the condition on groups. The place says so for the query itself only, and not for the
queries inside it (`Writers.unnamed_ofRank`). So an operand is the query on its own without the
aliases of its columns, up to the lock of its rows, which an operand never has. The two agree
exactly if there is no lock, or if the operand cannot be written anyway
(`Writers.setOperation_alone_iff`).
-/

namespace Polysql

open Writers (ofRank)

namespace Writers

/-- Writers that draft parts for a place where what is selected loses its alias. -/
def unnamed (w : Writers) : Writers where
  expr s := w.expr s.withoutFieldNames
  call s := w.call s.withoutFieldNames
  condition s := w.condition s.withoutFieldNames
  select := w.select
  table s := w.table s.withoutFieldNames
  statement := w.statement

variable (w : Writers) (s : Scope)

lemma draftExpr_withoutFieldNames (e : Expr) :
    w.draftExpr s.withoutFieldNames e = w.unnamed.draftExpr s e := by
  cases e <;> rfl

lemma draftCall_withoutFieldNames (c : Call) :
    w.draftCall s.withoutFieldNames c = w.unnamed.draftCall s c := by
  rfl

lemma draftCondition_withoutFieldNames (c : Condition) :
    w.draftCondition s.withoutFieldNames c = w.unnamed.draftCondition s c := by
  cases c <;> rfl

lemma draftTable_withoutFieldNames (t : Table) :
    w.draftTable s.withoutFieldNames t = w.unnamed.draftTable s t := by
  cases t <;> rfl

lemma unnamed_level : ∀ n : Nat, (level n).unnamed = level n
  | 0 => rfl
  | n + 1 => by
    have ih := unnamed_level n
    refine eq_of_write fun s p => ?_
    cases p with
    | expr e => exact (draftExpr_withoutFieldNames _ s e).trans (by rw [ih]; rfl)
    | call c => exact (draftCall_withoutFieldNames _ s c).trans (by rw [ih]; rfl)
    | condition c => exact (draftCondition_withoutFieldNames _ s c).trans (by rw [ih]; rfl)
    | select q => rfl
    | table t => exact (draftTable_withoutFieldNames _ s t).trans (by rw [ih]; rfl)
    | statement stmt => rfl

lemma unnamed_ofRank : ofRank.unnamed = ofRank := by
  refine eq_of_write fun s p => ?_
  have hwrite : ofRank.unnamed.write s p = (level p.rank).unnamed.write s p := by
    cases p <;> rfl
  rw [hwrite, unnamed_level, ofRank, write_ofDrafts]

end Writers

/-- A draft behind another one is written if both are. -/
lemma Style.run_append_eq_ok {st : Style} {r w : Written} {a b : Draft} (hr : r.error? = none) :
    st.run r (a ++ b) = .ok w ↔ ∃ w', st.run r a = .ok w' ∧ st.run w' b = .ok w := by
  rw [st.run_append a b hr]
  cases st.run r a with
  | error e => exact ⟨nofun, fun ⟨_, h, _⟩ => nomatch h⟩
  | ok w' => exact ⟨fun h => ⟨w', rfl, h⟩, fun ⟨_, h, hb⟩ => by cases h; exact hb⟩

/-! ### Queries without their aliases -/

/-- What is selected, without the name it is given. -/
def SelectField.withoutAlias (f : SelectField) : SelectField :=
  { f with alias? := none }

/-- A query whose own columns have no aliases. Those of the queries inside it stay. -/
def Select.withoutAliases (q : Select) : Select :=
  { q with fields := q.fields.map SelectField.withoutAlias }

/-- The place of what a query consists of: that of the query, or inside of the one around it where
a limit is a condition on row numbers. -/
def Select.bodyScope (q : Select) (s : Scope) : Scope :=
  if q.limited?.isSome ∧ s.dialect.limitForm = .rowNumber then s.inQuery else s

/-- A query whose rows are not locked. -/
def Select.unlocked (q : Select) : Select :=
  { q with forUpdate := false }

namespace Writers

/-- The words of a set operation, if the engine has it. -/
def operator (s : Scope) (o : SetOperation) : Draft :=
  if o.op ≠ .union ∧ s.has Feature.withoutIntersect then
    s.refuse "INTERSECT and EXCEPT"
  else if o.op ≠ .union ∧ o.all ∧ !s.has Feature.intersectAll then
    s.refuse "INTERSECT ALL and EXCEPT ALL"
  else
    s.clause (setWords s o)

variable {s : Scope} {q : Select}

lemma setOperation_eq_operator (w : Writers) (s : Scope) (o : SetOperation) :
    w.setOperation s o = operator s o ++
      (if o.select.isCompound then w.subquery s o.select
        else w.body s.withoutFieldNames o.select false) := by
  rw [setOperation, operator]
  split
  · rfl
  · split <;> rfl

lemma selectField_withoutFieldNames (w : Writers) (s : Scope) (f : SelectField) :
    w.selectField s.withoutFieldNames f = w.unnamed.selectField s f.withoutAlias := by
  have hnone : Draft.onlyIf s.declareFields .empty = .empty := by
    cases s.declareFields <;> rfl
  change _ = w.expr s.withoutFieldNames f.expr ++ Draft.onlyIf s.declareFields .empty
  rw [hnone]
  rfl

lemma selectFields_withoutFieldNames (w : Writers) (s : Scope) (fs : List SelectField) :
    w.selectFields s.withoutFieldNames fs =
      w.unnamed.selectFields s (fs.map SelectField.withoutAlias) := by
  have hfields : fs.map (w.selectField s.withoutFieldNames) =
      (fs.map SelectField.withoutAlias).map (w.unnamed.selectField s) := by
    rw [List.map_map]
    exact List.map_congr_left fun f _ => selectField_withoutFieldNames w s f
  rw [selectFields, selectFields, List.isEmpty_map, hfields]

/-- The short path of operands: a query that has no limit, at a place without the names of columns,
is the query without these names. -/
lemma body_withoutFieldNames (w : Writers) (s : Scope) (h : q.limited? = none) :
    w.body s.withoutFieldNames q false = w.unnamed.body s q.withoutAliases true := by
  have hfront : Draft.limitInFront s q.withoutAliases = .empty := limitInFront_unlimited s h
  have hlimit (b : Bool) : Draft.onlyIf b .empty = .empty := by
    cases b <;> rfl
  simp only [body, selectFields_withoutFieldNames, hfront, hlimit, Bool.false_and]
  rfl

/-- The long path: a query without clauses that apply to several operands, on its own. -/
lemma select_plain (s : Scope) (h : q.isCompound = false) :
    ofRank.select s q =
      if q.forUpdate && s.has Feature.withoutForUpdate then s.refuse "FOR UPDATE"
      else ofRank.body s q true ++ Draft.onlyIf q.forUpdate (s.clause "FOR UPDATE") := by
  obtain ⟨hwith, hsetOps, horder, hlimited⟩ := Select.isCompound_eq_false_iff.mp h
  have hend := limitAtEnd_unlimited s hlimited
  have horderBy : ofRank.orderBy s [] = .empty := rfl
  rw [select_ofRank, draftSelect, hlimited, selectLimited, hwith, hsetOps, horder, hend, horderBy]
  simp [Draft.ofOption, Draft.concat]

/-- The lock is what stands at the end, or what the query is refused for. -/
lemma select_lock (s : Scope) (h : q.isCompound = false) (hlock : q.forUpdate = true) :
    ofRank.select s q =
      if s.has Feature.withoutForUpdate then s.refuse "FOR UPDATE"
      else ofRank.select s q.unlocked ++ s.clause "FOR UPDATE" := by
  have hunlocked : ofRank.select s q.unlocked = ofRank.body s q true :=
    (select_plain s (q := q.unlocked) h).trans (Draft.append_empty _)
  rw [select_plain s h, hlock, Bool.true_and, hunlocked]
  rfl

/-- An operand is the query on its own without its aliases, apart from the lock of its rows. -/
lemma setOperation_plain (s : Scope) {o : SetOperation} (h : o.select.isCompound = false) :
    ofRank.setOperation s o =
      operator s o ++ ofRank.select s o.select.withoutAliases.unlocked := by
  obtain ⟨-, -, -, hlimited⟩ := Select.isCompound_eq_false_iff.mp h
  have halone : ofRank.select s o.select.withoutAliases.unlocked =
      ofRank.body s o.select.withoutAliases true :=
    (select_plain s (q := o.select.withoutAliases.unlocked) h).trans (Draft.append_empty _)
  rw [setOperation_eq_operator, h, if_neg Bool.false_ne_true, halone,
    body_withoutFieldNames _ s hlimited, unnamed_ofRank]

/-- Behind anything, the lock of its rows is the end of a query that has one. -/
lemma run_locked {st : Style} {r w : Written} {a : Draft} (hr : r.error? = none)
    (h : q.isCompound = false) (hlock : q.forUpdate = true)
    (hw : st.run r (a ++ ofRank.select s q) = .ok w) :
    ∃ w', st.run r (a ++ ofRank.select s q.unlocked) = .ok w' ∧
      w = w'.add (st.separator s.depth ++ "FOR UPDATE") := by
  rw [select_lock s h hlock] at hw
  split at hw
  next =>
    obtain ⟨w', hw', hrefuse⟩ := (Style.run_append_eq_ok hr).mp hw
    rw [Scope.refuse, st.run_fail _ (st.error?_of_run hw')] at hrefuse
    cases hrefuse
  next =>
    rw [← Draft.append_assoc] at hw
    obtain ⟨w', hw', hclause⟩ := (Style.run_append_eq_ok hr).mp hw
    rw [st.fixed_clause s _ w' (st.error?_of_run hw'), st.text_clause] at hclause
    exact ⟨w', hw', (Except.ok.inj hclause).symm⟩

/-- Behind anything, a query is written as it is without the lock of its rows exactly if it has none
or fails anyway. -/
lemma run_unlocked_iff (st : Style) {r : Written} (hr : r.error? = none) (a : Draft) (s : Scope)
    (h : q.isCompound = false) :
    (∀ w, st.run r (a ++ ofRank.select s q.unlocked) = .ok w ↔
        st.run r (a ++ ofRank.select s q) = .ok w) ↔
      q.forUpdate = false ∨ ∃ e, st.run r (a ++ ofRank.select s q.unlocked) = .error e := by
  -- if the query is not locked, both are the same, and otherwise one of them is longer
  cases hlock : q.forUpdate with
  | false =>
    have hsame : q.unlocked = q := by
      cases q
      cases hlock
      rfl
    rw [hsame]
    exact iff_of_true (fun _ => Iff.rfl) (.inl rfl)
  | true =>
    cases hunlocked : st.run r (a ++ ofRank.select s q.unlocked) with
    | error e =>
      refine iff_of_true (fun w => ⟨nofun, fun hw => ?_⟩) (.inr ⟨e, rfl⟩)
      obtain ⟨w', hw', -⟩ := run_locked hr h hlock hw
      rw [hunlocked] at hw'
      cases hw'
    | ok w =>
      refine iff_of_false (fun hsame => ?_) (by simp)
      obtain ⟨w', hw', hadd⟩ := run_locked hr h hlock ((hsame w).mp rfl)
      rw [hunlocked] at hw'
      cases hw'
      have hlength := congrArg (fun w => w.text.length) hadd
      -- the text of the lock is not empty
      simp [Written.add, String.length_append] at hlength

/-- A limit asks whether a query has set operations, and not which. -/
lemma limits_congr (s : Scope) (p : Select) {ops ops' : List SetOperation}
    (h : ops.isEmpty = ops'.isEmpty) :
    Draft.limitInFront s { p with setOps := ops } =
        Draft.limitInFront s { p with setOps := ops' } ∧
      Draft.limitAtEnd s { p with setOps := ops } =
        Draft.limitAtEnd s { p with setOps := ops' } := by
  constructor
  · simp only [Draft.limitInFront, Limit.fitsTop, Draft.firstSkip, Select.limited?, h]
  · simp only [Draft.limitAtEnd, Limit.fitsTop, Draft.orderedOffsetFetch, Select.limited?, h]

/-- What stands around one of the set operations of a query does not depend on it. -/
lemma selectLimited_around (w : Writers) (s : Scope) (p : Select)
    (before after : List SetOperation) :
    ∃ front back : Draft, ∀ o : SetOperation,
      w.selectLimited s { p with setOps := before ++ o :: after } =
        front ++ w.setOperation s o ++ back := by
  by_cases hrefused : p.forUpdate && s.has Feature.withoutForUpdate
  · refine ⟨s.refuse "FOR UPDATE", .empty, fun o => ?_⟩
    rw [selectLimited, if_pos hrefused, Draft.append_assoc]
    rfl
  · -- the query with any one operation in the place
    let some_ : Select := { p with setOps := [⟨.union, true, {}⟩] }
    refine ⟨Draft.ofOption (w.withClause s) p.with? ++ w.body s some_ true ++
        .concat (before.map (w.setOperation s)),
      .concat (after.map (w.setOperation s)) ++ w.orderBy s p.orderBy ++
        Draft.limitAtEnd s some_ ++ .onlyIf p.forUpdate (s.clause "FOR UPDATE"), fun o => ?_⟩
    have hempty : (before ++ o :: after).isEmpty = some_.setOps.isEmpty := by
      cases before <;> rfl
    obtain ⟨hfront, hend⟩ := limits_congr s p hempty
    have hbody : w.body s { p with setOps := before ++ o :: after } true =
        w.body s some_ true := by
      simp only [body, hfront]
      rfl
    have hconcat : Draft.concat ((before ++ o :: after).map (w.setOperation s)) =
        .concat (before.map (w.setOperation s)) ++
          (w.setOperation s o ++ .concat (after.map (w.setOperation s))) := by
      rw [List.map_append, Draft.concat_append]
      rfl
    rw [selectLimited, if_neg hrefused, hbody, hend, hconcat]
    simp only [Draft.append_assoc]
    rfl

/-- What limits a query by the numbers of its rows stands around the query without its limit. -/
lemma rowNumbered_around (w : Writers) (s : Scope) (l : Limit) :
    ∃ front back : Draft, ∀ q : Select,
      w.rowNumbered s q l = front ++ w.select s.inQuery { q with limit? := none } ++ back := by
  have hrows (n? : Option UInt64) (m : UInt64) : ∃ front back : Draft, ∀ all : Draft,
      "SELECT * FROM (SELECT q.*, ROWNUM rn FROM (" ++ all ++ ") q" ++
          Draft.ofOption
            (fun n => " WHERE ROWNUM <= " ++ Draft.number (Limit.lastRow n m)) n? ++
          ")" ++ s.clause "WHERE rn > " ++ Draft.rowCount m = front ++ all ++ back :=
    ⟨_, _, fun all => by rw [Draft.append_assoc, Draft.append_assoc, Draft.append_assoc,
      Draft.append_assoc]⟩
  -- neither, only the offset, only the count, or both
  obtain ⟨_ | n, _ | m⟩ := l
  · obtain ⟨front, back, h⟩ := hrows none 0
    exact ⟨front, back, fun q => h _⟩
  · obtain ⟨front, back, h⟩ := hrows none m
    exact ⟨front, back, fun q => h _⟩
  · refine ⟨"SELECT * FROM (", ") q" ++ s.clause "WHERE ROWNUM <= " ++ Draft.rowCount n,
      fun q => ?_⟩
    rw [rowNumbered]
    simp only [Draft.append_assoc]
  · obtain ⟨front, back, h⟩ := hrows (some n) m
    exact ⟨front, back, fun q => h _⟩

/-- The set operations of a query are drafted at the place of its body, and what stands around one
of them does not depend on it. -/
lemma exists_around_setOperation (s : Scope) (p : Select) (before after : List SetOperation) :
    ∃ front back : Draft, ∀ o : SetOperation,
      ofRank.select s { p with setOps := before ++ o :: after } =
        front ++ ofRank.setOperation (p.bodyScope s) o ++ back := by
  rw [Select.bodyScope]
  cases hl : p.limited? with
  | none =>
    obtain ⟨front, back, haround⟩ := ofRank.selectLimited_around s p before after
    refine ⟨front, back, fun o => ?_⟩
    have hlimited : Select.limited? { p with setOps := before ++ o :: after } = none := hl
    rw [select_ofRank, draftSelect, hlimited]
    exact haround o
  | some l =>
    have hlimited (o : SetOperation) :
        Select.limited? { p with setOps := before ++ o :: after } = some l := hl
    -- row numbers are wrapped round the query without the limit, and its operations stand in there
    by_cases hform : s.dialect.limitForm = .rowNumber
    · obtain ⟨front, back, haround⟩ := ofRank.rowNumbered_around s l
      obtain ⟨front', back', haround'⟩ :=
        ofRank.selectLimited_around s.inQuery { p with limit? := none } before after
      refine ⟨front ++ front', back' ++ back, fun o => ?_⟩
      have hinner : ofRank.select s.inQuery
          { p with setOps := before ++ o :: after, limit? := none } =
            front' ++ ofRank.setOperation s.inQuery o ++ back' :=
        (select_ofRank _ _).trans (haround' o)
      rw [select_ofRank, draftSelect, hlimited]
      dsimp only
      rw [if_pos hform, if_pos ⟨rfl, hform⟩, haround, hinner]
      simp only [Draft.append_assoc]
    · obtain ⟨front, back, haround⟩ := ofRank.selectLimited_around s p before after
      refine ⟨front, back, fun o => ?_⟩
      rw [select_ofRank, draftSelect, hlimited, if_neg fun h => hform h.2]
      exact (if_neg hform).trans (haround o)

/-- **Operands.** Wherever a query with set operations stands, what is drafted around one of them
does not depend on it. Behind its words, if the operand is a query without clauses that apply to
several operands, stands the draft of that query on its own, without the aliases of its columns and
without the lock of its rows. So what is written is the query on its own without these aliases, and
nothing is written when that fails, exactly if its rows are not locked or the operand fails as
well. -/
theorem setOperation_alone_iff (s : Scope) (p : Select) (before after : List SetOperation)
    {o : SetOperation} (h : o.select.isCompound = false) :
    let s' := p.bodyScope s
    let alone (q : Select) : Draft := operator s' o ++ ofRank.select s' q
    (∃ front back : Draft, ∀ o : SetOperation,
      ofRank.select s { p with setOps := before ++ o :: after } =
        front ++ ofRank.setOperation s' o ++ back) ∧
      ofRank.setOperation s' o = alone o.select.withoutAliases.unlocked ∧
      (∀ (st : Style) (r : Written), r.error? = none →
        ((∀ w, st.run r (ofRank.setOperation s' o) = .ok w ↔
            st.run r (alone o.select.withoutAliases) = .ok w) ↔
          o.select.forUpdate = false ∨ ∃ e, st.run r (ofRank.setOperation s' o) = .error e)) ∧
      ∀ (target : Target) (q : Select),
        Draft.ofStatement target (.select q) = ofRank.select { target } q := by
  intro s' alone
  have hplain := setOperation_plain s' h
  refine ⟨exists_around_setOperation s p before after, hplain, fun st r hr => ?_,
    ofStatement_select⟩
  rw [hplain]
  exact run_unlocked_iff st hr _ s' h

/-- An operand whose column has an alias, which it loses, and has a query inside it whose column
keeps its own. -/
theorem setOperation_alone_nested :
    let r : Renderer := { dialect := .postgres, settings := { quoting := .never } }
    let column (n a : String) : SelectField := ⟨.column (.ofText n), some (.ofText a)⟩
    let inner : Select := { fields := [column "c" "d"], tables := [.ofName (.ofText "v")] }
    let q : Select :=
      { distinct? := some .all,
        fields := [column "b" "x"],
        tables := [.ofName (.ofText "u")],
        filter? := some (.inSelect (.column (.ofText "b")) inner false),
        groupBy := [.column (.ofText "b")] }
    let o : SetOperation := ⟨.except, true, q⟩
    let p : Select := { fields := [column "a" "y"], tables := [.ofName (.ofText "t")] }
    let s : Scope := { target := r.target }
    let sql (q : Select) := (r.render (.select q)).map Rendered.sql
    q.isCompound = false ∧
      sql { p with setOps := [o] } =
        .ok ("SELECT a AS y FROM t EXCEPT ALL " ++
          "SELECT DISTINCT b FROM u WHERE b IN (SELECT c AS d FROM v) GROUP BY b") ∧
      sql q =
        .ok "SELECT DISTINCT b AS x FROM u WHERE b IN (SELECT c AS d FROM v) GROUP BY b" ∧
      ∀ w, r.style.run (.start []) (ofRank.setOperation s o) = .ok w ↔
        r.style.run (.start []) (operator s o ++ ofRank.select s q.withoutAliases) = .ok w := by
  intro r column inner q o p s sql
  obtain ⟨-, -, hiff, -⟩ := setOperation_alone_iff s p [] [] (o := o) rfl
  exact ⟨rfl, by decide +kernel, by decide +kernel, (hiff r.style (.start []) rfl).mpr (.inl rfl)⟩

/-- An operand whose rows would be locked: the lock is left out, also where the query on its own is
refused for it. -/
theorem setOperation_alone_locked :
    let renderer (d : Dialect) : Renderer := { dialect := d, settings := { quoting := .never } }
    let column (n : String) : SelectField := ⟨.column (.ofText n), none⟩
    let q : Select :=
      { fields := [column "b"], tables := [.ofName (.ofText "u")], forUpdate := true }
    let p : Select :=
      { fields := [column "a"], tables := [.ofName (.ofText "t")],
        setOps := [⟨.union, false, q⟩] }
    let sql (d : Dialect) (q : Select) := ((renderer d).render (.select q)).map Rendered.sql
    q.isCompound = false ∧ q.withoutAliases = q ∧
      sql .sqlServer p = .ok "SELECT a FROM t UNION SELECT b FROM u" ∧
      sql .sqlServer q = .error (.unsupported .sqlServer "FOR UPDATE") ∧
      sql .postgres p = .ok "SELECT a FROM t UNION SELECT b FROM u" ∧
      sql .postgres q = .ok "SELECT b FROM u FOR UPDATE" := by
  intro renderer column q p sql
  exact ⟨rfl, rfl, by decide +kernel, by decide +kernel, by decide +kernel, by decide +kernel⟩

end Writers

end Polysql

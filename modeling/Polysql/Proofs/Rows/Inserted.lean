import Polysql.Proofs.Place.Operand
import Polysql.Proofs.Reading.Operand
import Polysql.Proofs.Rows.Union
import Polysql.Render
/-!
Inserts of several rows on engines that take one row only. There the rows become queries, one after
the other, which select the values that stand between the parentheses of a list elsewhere. What the
values are read as and what they bind follows from the drafts of the rows (`Writers.exprs_given`,
`Writers.bound_insertRows`), so it is the same in both forms. The one thing that differs is the
default of a column, whose keyword cannot be selected (`Renderer.rows_inserted_iff`).
-/

namespace Polysql

open Writers (ofRank expr_ofRank statement_ofRank)

/-! ### The values that drafts bind -/

/-- The value that a piece binds. -/
def Piece.bound? : Piece → Option Parameter
  | .parameter c => some c.parameter
  | _ => none

namespace Draft

/-- The values that a draft binds, in order. -/
def bound (d : Draft) : List Parameter :=
  d.pieces.filterMap Piece.bound?

lemma bound_text (s : String) : (text s).bound = [] := rfl

lemma bound_append {a b : Draft} (h : (a ++ b).error? = none) :
    (a ++ b).bound = a.bound ++ b.bound := by
  obtain ⟨ps, _ | e⟩ := a
  · exact List.filterMap_append
  · cases h

/-- What is written out binds nothing. -/
lemma bound_of_written {d : Draft} (h : d.Follows .written) : d.bound = [] := by
  refine List.filterMap_eq_nil_iff.mpr fun p hp => ?_
  cases p with
  | parameter c => exact absurd (h _ hp) nofun
  | _ => rfl

lemma bound_separated {separator : String} {ds : List Draft}
    (h : (separated separator ds).error? = none) :
    (separated separator ds).bound = ds.flatMap bound := by
  induction ds with
  | nil => rfl
  | cons d ds ih =>
    cases ds with
    | nil => exact (List.append_nil _).symm
    | cons d' ds =>
      have hrest := (error?_append.mp h).2
      change (d ++ text separator ++ separated separator (d' :: ds)).bound = _
      rw [bound_append h, bound_append (error?_append.mp h).1, bound_text, List.append_nil,
        ih hrest]
      rfl

lemma bound_concat {ds : List Draft} (h : (concat ds).error? = none) :
    (concat ds).bound = ds.flatMap bound := by
  induction ds with
  | nil => rfl
  | cons d ds ih =>
    change (d ++ concat ds).error? = none at h
    change (d ++ concat ds).bound = _
    rw [bound_append h, ih (error?_append.mp h).2]
    rfl

end Draft

/-- The values that are bound of those that can be: none if all are written out. -/
def Style.kept (st : Style) (ps : List Parameter) : List Parameter :=
  match st.settings.parameters with
  | .inlined => []
  | .indexed | .named => ps

namespace Style

variable {st : Style}

lemma kept_nil : st.kept [] = [] := by
  rw [kept]
  cases st.settings.parameters <;> rfl

lemma kept_append (ps qs : List Parameter) : st.kept (ps ++ qs) = st.kept ps ++ st.kept qs := by
  rw [kept, kept, kept]
  cases st.settings.parameters <;> rfl

lemma parameters_run_ofPiece {p : Piece} (hp : p.Follows .bound) {r w : Written}
    (hr : r.error? = none) (h : st.run r (.ofPiece p) = .ok w) :
    w.parameters = r.parameters ++ st.kept p.bound?.toList := by
  obtain ⟨text, bound, _⟩ := r
  cases hr
  rw [run_ofPiece] at h
  -- apart from a value that is bound, pieces are written alike in all three forms
  by_cases hc : ∃ c, p = .parameter c
  · obtain ⟨c, rfl⟩ := hc
    rw [writePiece, writeConstant] at h
    rw [Piece.bound?, Option.toList_some, kept]
    cases hform : st.settings.parameters with
    | inlined =>
      rw [hform] at h
      cases hliteral : st.dialect.literal c.type c.value with
      | error e =>
        rw [hliteral] at h
        cases h
      | ok x =>
        rw [hliteral] at h
        cases h
        exact (List.append_nil bound).symm
    | indexed | named =>
      rw [hform] at h
      cases h
      rfl
  · obtain ⟨x, hx⟩ := st.writePiece_fixed hp fun c h => hc ⟨c, h⟩
    have hbound : p.bound? = none := by
      cases p with
      | parameter c => exact absurd ⟨c, rfl⟩ hc
      | _ => rfl
    rw [show st.writePiece ⟨text, bound, none⟩ p = _ from
      hx st.settings.parameters text bound] at h
    cases h
    rw [hbound, Option.toList_none, kept_nil, List.append_nil]

/-- The values that a draft binds are bound after those that are bound already. -/
lemma parameters_run {d : Draft} (hd : d.Follows .bound) {r w : Written} (hr : r.error? = none)
    (h : st.run r d = .ok w) : w.parameters = r.parameters ++ st.kept d.bound := by
  obtain ⟨ps, e?⟩ := d
  -- piece by piece, behind whatever has been written and bound before
  induction ps generalizing r with
  | nil =>
    cases e? with
    | none =>
      rw [show (⟨[], none⟩ : Draft) = .empty from rfl, st.run_empty hr] at h
      cases h
      rw [Draft.bound, List.filterMap_nil, kept_nil, List.append_nil]
    | some e =>
      rw [show (⟨[], some e⟩ : Draft) = .fail e from rfl, st.run_fail e hr] at h
      cases h
  | cons p ps ih =>
    obtain ⟨hp, hps⟩ := List.forall_mem_cons.mp hd
    have hsplit : (⟨p :: ps, e?⟩ : Draft) = .ofPiece p ++ ⟨ps, e?⟩ := rfl
    obtain ⟨w', hw', hrest⟩ := (run_append_eq_ok hr).mp (hsplit ▸ h)
    have hbound : (⟨p :: ps, e?⟩ : Draft).bound =
        p.bound?.toList ++ (⟨ps, e?⟩ : Draft).bound := by
      rw [Draft.bound, Draft.bound, List.filterMap_cons]
      cases p.bound? <;> rfl
    rw [ih (st.error?_of_run hw') hps hrest, parameters_run_ofPiece hp hr hw', hbound, kept_append,
      List.append_assoc]

end Style

/-! ### Rows of values -/

/-- The expression is a value or the default of a column. -/
def Expr.isGiven : Expr → Bool
  | .constant _ | .columnDefault => true
  | _ => false

/-- The value that is bound for an expression. -/
def Expr.bound? : Expr → Option Parameter
  | .constant c => if c.inline then none else some c.parameter
  | _ => none

/-- What a given expression is read as: a value, or the keyword. -/
def Expr.givenToken : Expr → Token
  | .constant c => .value c
  | _ => .word "DEFAULT"

namespace Writers

/-- A row as a query: what it selects, from the table of one row where there has to be one. -/
def rowSelect (w : Writers) (s : Scope) (r : Row) : Draft :=
  "SELECT " ++ w.exprs s r ++
    Draft.onlyIf (s.dialect.needsDual false) (s.clause "FROM " ++ s.family.dual)

/-- Rows as queries, one after the other. -/
def unionOfRows (w : Writers) (s : Scope) : List Row → Draft
  | [] => .empty
  | r :: rs =>
    w.rowSelect s r ++ Draft.concat (rs.map fun r => s.clause "UNION ALL " ++ w.rowSelect s r)

variable {s : Scope}

lemma exprs_withoutFieldNames (s : Scope) (r : Row) :
    ofRank.exprs s.withoutFieldNames r = ofRank.exprs s r := by
  have hexpr : ofRank.unnamed.expr s = ofRank.expr s := by rw [unnamed_ofRank]
  exact congrArg (fun f => Draft.commas (r.map f)) hexpr

/-- The operand of a row that has values. -/
lemma draft_ofRow (s : Scope) {r : Row} (hr : r ≠ []) :
    (Operand.ofRow r).draft s = ofRank.rowSelect s r := by
  have hfield (e : Expr) : ofRank.selectField s ⟨e, none⟩ = ofRank.expr s e := by
    change ofRank.expr s e ++ Draft.onlyIf s.declareFields .empty = _
    cases s.declareFields <;> exact Draft.append_empty _
  have hfields : ofRank.selectFields s (Operand.ofRow r).fields = ofRank.exprs s r := by
    rw [selectFields, Operand.ofRow, List.isEmpty_map, if_neg (mt List.isEmpty_iff.mp hr),
      List.map_map]
    exact congrArg Draft.commas (List.map_congr_left fun e _ => hfield e)
  rw [Operand.draft, hfields]
  exact Draft.append_empty _

/-- Rows that have values are selected one after the other. -/
lemma select_rows (s : Scope) {r : Row} {rs : List Row} (hrows : ∀ row ∈ r :: rs, row ≠ []) :
    ofRank.select s ((Select.ofRow r).unionAll (rs.map .ofRow)) =
      ofRank.unionOfRows s (r :: rs) := by
  obtain ⟨hr, hrs⟩ := List.forall_mem_cons.mp hrows
  have hplain : ∀ q ∈ rs.map Select.ofRow, q.isCompound = false := by
    refine List.forall_mem_map.mpr fun r _ => ?_
    rw [Select.ofRow_eq]
    rfl
  have hrest : ((rs.map Select.ofRow).map fun q =>
      s.clause "UNION ALL " ++ ofRank.body s.withoutFieldNames q false) =
        rs.map fun r => s.clause "UNION ALL " ++ ofRank.rowSelect s r := by
    rw [List.map_map]
    refine List.map_congr_left fun row hmem => ?_
    rw [Function.comp_apply, Select.ofRow_eq_operand, body_operand,
      draft_ofRow s.withoutFieldNames (hrs row hmem), rowSelect, exprs_withoutFieldNames]
    rfl
  rw [Select.ofRow_eq_operand, select_unionAll s _ hplain, draft_ofRow s hr, hrest]
  rfl

end Writers

/-! ### What is written of values -/

lemma intersperse_cons {α : Type} (separator a : α) (as : List α) :
    (a :: as).intersperse separator = a :: as.flatMap fun b => [separator, b] := by
  induction as generalizing a with
  | nil => rfl
  | cons b as ih =>
    rw [List.intersperse_cons_cons, ih, List.flatMap_cons]
    rfl

lemma mem_intersperse_iff {α : Type} {separator x : α} (hx : x ≠ separator) (as : List α) :
    x ∈ as.intersperse separator ↔ x ∈ as := by
  cases as with
  | nil => exact Iff.rfl
  | cons a as =>
    rw [intersperse_cons, List.mem_cons, List.mem_cons, List.mem_flatMap]
    simp [hx]

namespace Writers

variable {s : Scope}

/-- What a given expression binds, and what it is read as. -/
lemma expr_given (hs : s.inline = false) {e : Expr} (he : e.isGiven)
    (hok : (ofRank.expr s e).error? = none) :
    (ofRank.expr s e).bound = e.bound?.toList ∧ (ofRank.expr s e).tokens = [e.givenToken] := by
  rw [expr_ofRank] at hok ⊢
  cases e with
  | constant c =>
    change (Draft.constant s c).error? = none at hok
    change (Draft.constant s c).bound = _ ∧ (Draft.constant s c).tokens = [.value c]
    rw [Draft.constant, hs, Bool.false_or] at hok ⊢
    rw [Expr.bound?]
    -- a constant is bound or written out, and is the one token of its draft in either case
    cases hinline : c.inline with
    | false => exact ⟨rfl, rfl⟩
    | true =>
      rw [hinline, if_pos rfl] at hok
      rw [if_pos rfl, if_pos rfl]
      cases hliteral : s.dialect.literal c.type c.value with
      | error e =>
        rw [hliteral] at hok
        cases hok
      | ok x => exact ⟨rfl, rfl⟩
  | columnDefault =>
    have hchars : "DEFAULT".toList.all isWordChar = true := by decide +kernel
    have hword := tokensOfText_word (by decide) (List.all_eq_true.mp hchars)
    exact ⟨rfl, (Draft.tokens_text _).trans hword⟩
  | _ => cases he

/-- The values of a row with commas between them. -/
lemma exprs_given (hs : s.inline = false) {r : Row} (hr : ∀ e ∈ r, e.isGiven)
    (hok : (ofRank.exprs s r).error? = none) :
    (ofRank.exprs s r).bound = r.filterMap Expr.bound? ∧
      (ofRank.exprs s r).tokens = (r.map Expr.givenToken).intersperse .comma := by
  have heach : ∀ e ∈ r, (ofRank.expr s e).error? = none :=
    List.forall_mem_map.mp (Draft.error?_separated.mp hok)
  have hgiven (e : Expr) (he : e ∈ r) := expr_given hs (hr e he) (heach e he)
  constructor
  · rw [exprs, Draft.commas, Draft.bound_separated hok, List.flatMap_map,
      List.filterMap_eq_flatMap_toList]
    exact List.flatMap_congr fun e he => (hgiven e he).1
  · have hcomma : tokensOfText ", " = [.comma] := rfl
    cases r with
    | nil => rfl
    | cons e es =>
      -- the commas stand in front of all values but the first
      have hrest : ((es.map (ofRank.expr s)).flatMap fun d => tokensOfText ", " ++ d.tokens) =
          es.flatMap fun e => [.comma, e.givenToken] := by
        rw [List.flatMap_map, hcomma]
        refine List.flatMap_congr fun e he => ?_
        rw [(hgiven e (List.mem_cons_of_mem _ he)).2]
        rfl
      rw [exprs, Draft.commas, List.map_cons, Draft.tokens_separated ", " hok, hrest,
        (hgiven e List.mem_cons_self).2, List.map_cons, intersperse_cons, List.flatMap_map]
      rfl

/-- The keyword is read where a row asks for the default of a column. -/
lemma default_mem_exprs_iff (hs : s.inline = false) {r : Row} (hr : ∀ e ∈ r, e.isGiven)
    (hok : (ofRank.exprs s r).error? = none) :
    .word "DEFAULT" ∈ (ofRank.exprs s r).tokens ↔ .columnDefault ∈ r := by
  have htoken (e : Expr) (he : e.isGiven) :
      e.givenToken = .word "DEFAULT" ↔ e = .columnDefault := by
    cases e with
    | constant c => exact iff_of_false nofun nofun
    | columnDefault => exact iff_of_true rfl rfl
    | _ => cases he
  have hcomma : Token.word "DEFAULT" ≠ .comma := nofun
  rw [(exprs_given hs hr hok).2, mem_intersperse_iff hcomma, List.mem_map]
  constructor
  · rintro ⟨e, he, hword⟩
    rwa [← (htoken e (hr e he)).mp hword]
  · exact fun h => ⟨_, h, rfl⟩

/-- The values of a row in the drafts of the row are bound as they are there. -/
lemma bound_rows (hs : s.inline = false) {rows : List Row}
    (hrows : ∀ row ∈ rows, ∀ e ∈ row, e.isGiven) {draft : Row → Draft}
    (hok : ∀ row ∈ rows, (draft row).error? = none)
    (hdraft : ∀ row, (draft row).error? = none →
      (ofRank.exprs s row).error? = none ∧ (draft row).bound = (ofRank.exprs s row).bound) :
    (rows.map draft).flatMap Draft.bound = rows.flatten.filterMap Expr.bound? := by
  rw [List.filterMap_flatten, ← List.flatMap_def, List.flatMap_map]
  refine List.flatMap_congr fun row hmem => ?_
  obtain ⟨hexprs, hbound⟩ := hdraft row (hok row hmem)
  rw [hbound, (exprs_given hs (hrows row hmem) hexprs).1]

/-- A row in parentheses, and a row as a query, bind what its values bind. -/
lemma bound_row (s : Scope) (r : Row) (h : (ofRank.row s r).error? = none) :
    (ofRank.exprs s r).error? = none ∧ (ofRank.row s r).bound = (ofRank.exprs s r).bound := by
  rw [row] at h ⊢
  obtain ⟨hfront, -⟩ := Draft.error?_append.mp h
  refine ⟨(Draft.error?_append.mp hfront).2, ?_⟩
  rw [Draft.bound_append h, Draft.bound_append hfront]
  exact List.append_nil _

lemma bound_rowSelect (s : Scope) (r : Row) (h : (ofRank.rowSelect s r).error? = none) :
    (ofRank.exprs s r).error? = none ∧
      (ofRank.rowSelect s r).bound = (ofRank.exprs s r).bound := by
  rw [rowSelect] at h ⊢
  obtain ⟨hfront, -⟩ := Draft.error?_append.mp h
  have hfrom : (Draft.onlyIf (s.dialect.needsDual false)
      (s.clause "FROM " ++ s.family.dual)).bound = [] := by
    cases s.dialect.needsDual false <;> rfl
  refine ⟨(Draft.error?_append.mp hfront).2, ?_⟩
  rw [Draft.bound_append h, Draft.bound_append hfront, hfrom]
  exact List.append_nil _

/-- Rows as queries, one after the other, do not fail if none of them does. -/
lemma error?_unionOfRows (s : Scope) (rows : List Row) :
    (ofRank.unionOfRows s rows).error? = none ↔
      ∀ row ∈ rows, (ofRank.rowSelect s row).error? = none := by
  cases rows with
  | nil => exact iff_of_true rfl (List.forall_mem_nil _)
  | cons r rs =>
    have hclause (row : Row) : (s.clause "UNION ALL " ++ ofRank.rowSelect s row).error? = none ↔
        (ofRank.rowSelect s row).error? = none :=
      Draft.error?_append.trans (and_iff_right rfl)
    rw [unionOfRows, Draft.error?_append, Draft.error?_concat, List.forall_mem_map,
      List.forall_mem_cons]
    simp only [hclause]

/-- Rows as queries, one after the other, bind their values row by row. -/
lemma bound_unionOfRows (hs : s.inline = false) {rows : List Row}
    (hrows : ∀ row ∈ rows, ∀ e ∈ row, e.isGiven)
    (hok : (ofRank.unionOfRows s rows).error? = none) :
    (ofRank.unionOfRows s rows).bound = rows.flatten.filterMap Expr.bound? := by
  cases rows with
  | nil => rfl
  | cons r rs =>
    rw [unionOfRows] at hok ⊢
    obtain ⟨hfirst, hrest⟩ := Draft.error?_append.mp hok
    obtain ⟨hr, hrs⟩ := List.forall_mem_cons.mp hrows
    obtain ⟨hexprs, hbound⟩ := bound_rowSelect s r hfirst
    have hoks : ∀ row ∈ rs, (s.clause "UNION ALL " ++ ofRank.rowSelect s row).error? = none :=
      List.forall_mem_map.mp (Draft.error?_concat.mp hrest)
    have hothers := bound_rows hs hrs hoks fun row h => by
      obtain ⟨hexprs, hbound⟩ := bound_rowSelect s row (Draft.error?_append.mp h).2
      exact ⟨hexprs, (Draft.bound_append h).trans hbound⟩
    rw [Draft.bound_append hok, hbound, (exprs_given hs hr hexprs).1, Draft.bound_concat hrest,
      hothers, List.flatten_cons, List.filterMap_append]

/-- The rows of an insert bind their values row by row, whether they are a list or queries one after
the other. -/
lemma bound_insertRows (hs : s.inline = false) {rows : List Row} (hne : ∀ row ∈ rows, row ≠ [])
    (hrows : ∀ row ∈ rows, ∀ e ∈ row, e.isGiven)
    (hok : (ofRank.insertRows s rows).error? = none) :
    (ofRank.insertRows s rows).bound = rows.flatten.filterMap Expr.bound? := by
  have hlist (h : (" VALUES " ++ Draft.commas (rows.map (ofRank.row s))).error? = none) :
      (" VALUES " ++ Draft.commas (rows.map (ofRank.row s))).bound =
        rows.flatten.filterMap Expr.bound? := by
    have hcommas := (Draft.error?_append.mp h).2
    rw [Draft.bound_append h, Draft.commas, Draft.bound_separated hcommas]
    exact bound_rows hs hrows (List.forall_mem_map.mp (Draft.error?_separated.mp hcommas))
      (bound_row s)
  -- several rows may have to be selected one by one; no row and a single one are listed
  obtain _ | ⟨r, _ | ⟨r', rs⟩⟩ := rows
  · exact hlist hok
  · exact hlist hok
  · rw [insertRows] at hok ⊢
    split
    next hsingle =>
      rw [if_pos hsingle, select_rows s hne] at hok
      rw [select_rows s hne, Draft.bound_append hok,
        bound_unionOfRows hs hrows (Draft.error?_append.mp hok).2]
      rfl
    next hsingle =>
      rw [if_neg hsingle] at hok
      exact hlist hok

end Writers

/-! ### Inserts -/

/-- Engines that take one row only have none of the forms that stand elsewhere. -/
lemma Feature.of_singleRowInsert {d : Dialect} (h : singleRowInsert.contains d = true) :
    onConflict.contains d = false ∧ insertIgnore.contains d = false ∧
      outputClause.contains d = false := by
  revert h
  cases d <;> decide

section

variable {i : Insert} {rows : List Row}

lemma Draft.ofStatement_insert (target : Target)
    (hok : (Draft.ofStatement target (.insert i)).error? = none) :
    Draft.ofStatement target (.insert i) = ofRank.insertValid { target } i := by
  have hinsert : Draft.ofStatement target (.insert i) = ofRank.insert { target } i :=
    statement_ofRank { target } (.insert i)
  rw [hinsert, Writers.insert] at hok ⊢
  cases hvalid : i.validate with
  | error e =>
    rw [hvalid] at hok
    cases hok
  | ok u => rfl

/-- An insert on an engine that takes one row only. -/
lemma Writers.insertValid_single {s : Scope} (hs : s.has Feature.singleRowInsert = true)
    (hsource : i.source = .values rows) (hmany : 2 ≤ rows.length) (hne : ∀ row ∈ rows, row ≠ [])
    (hok : (ofRank.insertValid s i).error? = none) :
    ofRank.insertValid s i =
      "INSERT " ++ "INTO " ++ Draft.qualified i.table ++ insertColumns i.columns ++ " " ++
        ofRank.unionOfRows s rows ++ ofRank.returning s Feature.insertReturning i.returning := by
  -- an engine that takes single rows only has none of the other extensions
  obtain ⟨hconflict, hignore, houtput⟩ := Feature.of_singleRowInsert hs
  have hoff : s.has Feature.onConflict = false := hconflict
  have hno : s.has Feature.insertIgnore = false := hignore
  have hnone : ofRank.output s "INSERTED" i.returning = .empty := by
    rw [output, show s.has Feature.outputClause = false from houtput, Bool.and_false]
    rfl
  have hrows : ofRank.insertRows s rows = " " ++ ofRank.unionOfRows s rows := by
    obtain _ | ⟨r, _ | ⟨r', rs⟩⟩ := rows
    · simp at hmany
    · simp at hmany
    · rw [insertRows, if_pos hs, select_rows s hne]
  rw [insertValid, hoff, hno] at hok ⊢
  cases hskip : i.skipConflicts with
  | true =>
    rw [hskip] at hok
    cases hok
  | false =>
    rw [insertSource, hsource, hnone]
    dsimp only
    rw [hrows]
    simp [Draft.onlyIf, Draft.append_assoc]

/-- What an insert binds: the values in its rows, row by row, between those of an `OUTPUT` clause
and those of a `RETURNING` clause. -/
lemma Writers.bound_insertValid {s : Scope} (hs : s.inline = false)
    (hsource : i.source = .values rows) (hne : ∀ row ∈ rows, row ≠ [])
    (hrows : ∀ row ∈ rows, ∀ e ∈ row, e.isGiven)
    (hok : (ofRank.insertValid s i).error? = none) :
    (ofRank.insertValid s i).bound =
      (ofRank.output s "INSERTED" i.returning).bound ++ rows.flatten.filterMap Expr.bound? ++
        (ofRank.returning s Feature.insertReturning i.returning).bound := by
  have htexts (b : Bool) (x : String) : (Draft.onlyIf b (.text x)).bound = [] := by
    cases b <;> rfl
  have hcolumns : (insertColumns i.columns).bound = [] :=
    Draft.bound_of_written (by simp [insertColumns, columnList])
  have hsourceBound (h : (ofRank.insertSource s i).error? = none) :
      (ofRank.insertSource s i).bound =
        (ofRank.output s "INSERTED" i.returning).bound ++ rows.flatten.filterMap Expr.bound? := by
    rw [insertSource, hsource] at h ⊢
    obtain ⟨hfront, hrest⟩ := Draft.error?_append.mp h
    rw [Draft.bound_append h, Draft.bound_append hfront, hcolumns,
      bound_insertRows hs hne hrows hrest]
    rfl
  rw [insertValid] at hok ⊢
  split at hok
  next => cases hok
  next hskip =>
    -- from the end of the text to its beginning, no part fails
    have h₅ := (Draft.error?_append.mp hok).1
    have h₄ := (Draft.error?_append.mp h₅).1
    obtain ⟨h₃, hsourceOk⟩ := Draft.error?_append.mp h₄
    have h₂ := (Draft.error?_append.mp h₃).1
    have h₁ := (Draft.error?_append.mp h₂).1
    rw [if_neg hskip, Draft.bound_append hok, Draft.bound_append h₅, Draft.bound_append h₄,
      Draft.bound_append h₃, Draft.bound_append h₂, Draft.bound_append h₁, htexts, htexts,
      Draft.bound_of_written (Draft.follows_qualified i.table), hsourceBound hsourceOk]
    rw [List.append_nil]
    rfl

end

/-! ### What an insert is written as -/

namespace Renderer

/-- What is written of an insert has the values bound that its draft binds. -/
lemma parameters_write_insert {r : Renderer} {bound : List Parameter} {i : Insert}
    (hok : (r.write bound (.insert i)).error? = none) :
    (Draft.ofStatement r.target (.insert i)).error? = none ∧
      (r.write bound (.insert i)).parameters =
        bound ++ r.style.kept (Draft.ofStatement r.target (.insert i)).bound := by
  have hwrite : r.write bound (.insert i) =
      r.style.write (.start bound) (Draft.ofStatement r.target (.insert i)) := if_pos rfl
  have hdraft : Draft.ofStatement r.target (.insert i) = ofRank.insert { target := r.target } i :=
    statement_ofRank { target := r.target } (.insert i)
  have hfollows : (Draft.ofStatement r.target (.insert i)).Follows .bound := by
    rw [hdraft]
    exact Writers.ofRank_settled.insert { target := r.target } i
  have hrun : r.style.run (.start bound) (Draft.ofStatement r.target (.insert i)) =
      .ok (r.write bound (.insert i)) := by
    rw [Style.run, ← hwrite, Written.outcome, hok]
  rw [hwrite] at hok
  exact ⟨(Option.or_eq_none_iff.mp hok).2, Style.parameters_run hfollows rfl hrun⟩

/-- The values in the rows of an insert are bound between those of its other clauses. -/
lemma parameters_write_rows {r : Renderer} {bound : List Parameter} {i : Insert} {rows : List Row}
    (hsource : i.source = .values rows) (hne : ∀ row ∈ rows, row ≠ [])
    (hgiven : ∀ row ∈ rows, ∀ e ∈ row, e.isGiven)
    (hok : (r.write bound (.insert i)).error? = none) :
    let s : Scope := { target := r.target }
    (r.write bound (.insert i)).parameters = bound ++ r.style.kept
      ((ofRank.output s "INSERTED" i.returning).bound ++ rows.flatten.filterMap Expr.bound? ++
        (ofRank.returning s Feature.insertReturning i.returning).bound) := by
  intro s
  obtain ⟨hdraft, hparameters⟩ := parameters_write_insert hok
  have hvalid := Draft.ofStatement_insert r.target hdraft
  rw [hvalid] at hdraft hparameters
  rw [hparameters, Writers.bound_insertValid rfl hsource hne hgiven hdraft]

/-- **Rows of an insert.** Where an engine takes one row only, several rows of values are drafted as
queries, one after the other, each of which selects the values of its row with commas between them.
These lists can stand there exactly if no row asks for the default of a column. On every engine, the
values in the rows are bound row by row, after those of an `OUTPUT` clause and before those of a
`RETURNING` clause. -/
theorem rows_inserted_iff {i : Insert} {rows : List Row} {width : Nat}
    (hsource : i.source = .values rows) (hmany : 2 ≤ rows.length)
    (hwidth : ∀ row ∈ rows, row.length = width) (hpos : 1 ≤ width)
    (hgiven : ∀ row ∈ rows, ∀ e ∈ row, e.isGiven) (bound : List Parameter) {r : Renderer}
    (hsingle : Feature.singleRowInsert.contains r.dialect)
    (hok : (r.write bound (.insert i)).error? = none) :
    let s (r : Renderer) : Scope := { target := r.target }
    Draft.ofStatement r.target (.insert i) =
        "INSERT " ++ "INTO " ++ Draft.qualified i.table ++ Writers.insertColumns i.columns ++ " " ++
          ofRank.unionOfRows (s r) rows ++
          ofRank.returning (s r) Feature.insertReturning i.returning ∧
      (∀ row ∈ rows, (ofRank.exprs (s r) row).tokens =
        (row.map Expr.givenToken).intersperse .comma) ∧
      ((∀ row ∈ rows, .word "DEFAULT" ∉ (ofRank.exprs (s r) row).tokens) ↔
        ∀ row ∈ rows, .columnDefault ∉ row) ∧
      ∀ r' : Renderer, r'.settings.parameters = r.settings.parameters →
        (r'.write bound (.insert i)).error? = none →
          (r'.write bound (.insert i)).parameters = bound ++ r.style.kept
            ((ofRank.output (s r') "INSERTED" i.returning).bound ++
              rows.flatten.filterMap Expr.bound? ++
              (ofRank.returning (s r') Feature.insertReturning i.returning).bound) := by
  intro s
  -- a row of some width is not empty
  have hne : ∀ row ∈ rows, row ≠ [] := fun row hmem hnil => by
    have hlength := hwidth row hmem
    rw [hnil, List.length_nil] at hlength
    omega
  have hdraft := (parameters_write_insert hok).1
  have hvalid := Draft.ofStatement_insert r.target hdraft
  have hsplit : ofRank.insertValid (s r) i = _ :=
    Writers.insertValid_single hsingle hsource hmany hne (hvalid ▸ hdraft)
  have hexprs (row : Row) (hmem : row ∈ rows) : (ofRank.exprs (s r) row).error? = none := by
    rw [hvalid, hsplit] at hdraft
    have hunion := (Draft.error?_append.mp (Draft.error?_append.mp hdraft).1).2
    have hrow := (Writers.error?_unionOfRows (s r) rows).mp hunion row hmem
    exact (Writers.bound_rowSelect (s r) row hrow).1
  refine ⟨hvalid.trans hsplit, fun row hmem => ?_, ?_, fun r' hform hok' => ?_⟩
  · exact (Writers.exprs_given rfl (hgiven row hmem) (hexprs row hmem)).2
  · exact forall₂_congr fun row hmem => not_congr
      (Writers.default_mem_exprs_iff rfl (hgiven row hmem) (hexprs row hmem))
  · -- how a value is bound depends on the form of the placeholders only
    have hkept (ps : List Parameter) : r'.style.kept ps = r.style.kept ps := by
      have hsettings : r'.style.settings.parameters = r.style.settings.parameters := hform
      rw [Style.kept, Style.kept, hsettings]
    rw [parameters_write_rows hsource hne hgiven hok', hkept]

/-- Rows of values that are bound and values that are written out: the same values are bound on an
engine that takes one row only and on one that takes a list of rows. -/
theorem rows_inserted_iff_values :
    let renderer (d : Dialect) : Renderer := { dialect := d, settings := { quoting := .never } }
    let rows : List Row := [[.bind (.ofNat 1), .number 2], [.number 3, .bind (.ofNat 4)]]
    let i : Insert := { Insert.into (.ofText "t") with
      columns := [.ofText "a", .ofText "b"], source := .values rows }
    let sql (d : Dialect) := ((renderer d).render (.insert i)).map Rendered.sql
    sql .oracle21c = .ok
        "INSERT INTO t (a, b) SELECT :1, 2 FROM DUAL UNION ALL SELECT 3, :2 FROM DUAL" ∧
      sql .postgres = .ok "INSERT INTO t (a, b) VALUES ($1, 2), (3, $2)" ∧
      ((renderer .oracle21c).write [] (.insert i)).parameters =
        [(Constant.ofValue (.ofNat 1)).parameter, (Constant.ofValue (.ofNat 4)).parameter] ∧
      ((renderer .postgres).write [] (.insert i)).parameters =
        ((renderer .oracle21c).write [] (.insert i)).parameters := by
  intro renderer rows i sql
  have hwidth : ∀ row ∈ rows, row.length = 2 := by simp [rows]
  have hgiven : ∀ row ∈ rows, ∀ e ∈ row, e.isGiven := by
    have hall : rows.all (·.all Expr.isGiven) := rfl
    simpa only [List.all_eq_true] using hall
  have hok : ((renderer .oracle21c).write [] (.insert i)).error? = none := by decide +kernel
  have hok' : ((renderer .postgres).write [] (.insert i)).error? = none := by decide +kernel
  obtain ⟨-, -, -, hparameters⟩ := @rows_inserted_iff i rows 2 rfl (Nat.le_refl 2) hwidth
    (by decide) hgiven [] (renderer .oracle21c) (by decide) hok
  have hsame := hparameters (renderer .oracle21c) rfl hok
  exact ⟨by decide +kernel, by decide +kernel, hsame,
    (hparameters (renderer .postgres) rfl hok').trans hsame.symm⟩

/-- A row that asks for the default of a column: the keyword is one of the things selected. -/
theorem rows_inserted_iff_default :
    let renderer (d : Dialect) : Renderer := { dialect := d, settings := { quoting := .never } }
    let rows : List Row :=
      [[.bind (.ofNat 1), .columnDefault], [.bind (.ofNat 2), .bind (.ofNat 3)]]
    let i : Insert := { Insert.into (.ofText "t") with
      columns := [.ofText "a", .ofText "b"], source := .values rows }
    let sql (d : Dialect) := ((renderer d).render (.insert i)).map Rendered.sql
    Feature.singleRowInsert.contains .oracle21c ∧
      sql .oracle21c = .ok
        "INSERT INTO t (a, b) SELECT :1, DEFAULT FROM DUAL UNION ALL SELECT :2, :3 FROM DUAL" ∧
      sql .firebird = .ok ("INSERT INTO t (a, b) SELECT ?, DEFAULT FROM RDB$DATABASE " ++
        "UNION ALL SELECT ?, ? FROM RDB$DATABASE") := by
  intro renderer rows i sql
  exact ⟨by decide, by decide +kernel, by decide +kernel⟩

end Renderer

end Polysql

import Polysql.Proofs.Limit.Text
import Polysql.Render
/-!
The columns of a limited query. Clauses in a query leave its columns as they are, and so does a
query around it that selects everything; where the numbers of the rows are selected as well, they
are one more column, which everything includes. So a limit changes the columns of a query exactly
if an offset is written as a condition on row numbers (`QueryPlace.columns_limited_iff`), wherever
the query stands.
-/

namespace Polysql

open Writers (ofRank condition_ofRank expr_ofRank statement_ofRank)

/-! ### Columns -/

/-- What the columns of a query come from. -/
structure Columns (γ : Type) where
  /-- The columns of some tables, for a query that selects everything. -/
  everything : List Table → List γ
  /-- The columns of something that is selected, under the name it is given. -/
  selected : SelectField → List γ
  /-- The column of row numbers. -/
  rowNumbers : γ

/-- The columns without the names they are given. -/
def Columns.unnamed {γ : Type} (c : Columns γ) : Columns γ :=
  { c with selected := fun f => c.selected { f with alias? := none } }

/-- The columns of a query, if names are written or left out. -/
def Select.columns {γ : Type} (c : Columns γ) (named : Bool) (q : Select) : List γ :=
  if q.fields.isEmpty then c.everything q.tables
  else q.fields.flatMap fun f => c.selected (if named then f else { f with alias? := none })

/-- The text of a query at its place. -/
structure QueryText where
  /-- What limits the rows. -/
  limits : LimitText
  /-- Where it stands. -/
  scope : Scope
  /-- The query. -/
  query : Select
  /-- It is in parentheses. -/
  parenthesized : Bool

namespace QueryText

/-- The draft of the text. -/
def draft (t : QueryText) : Draft :=
  if t.parenthesized then "(" ++ t.limits.draft t.scope t.query ++ ")"
  else t.limits.draft t.scope t.query

/-- Names are written: always in a query inside of another one. -/
def named (t : QueryText) : Bool :=
  !t.limits.layers.isEmpty || t.scope.declareFields

/-- The columns: those of the query itself, and what the queries around it make of them. -/
def columns {γ : Type} (c : Columns γ) (t : QueryText) : List γ :=
  t.limits.layers.foldr (Layer.columns c.rowNumbers) (t.query.columns c t.named)

lemma columns_of_declareFields {γ : Type} (c : Columns γ) {t : QueryText}
    (h : t.scope.declareFields = true) :
    t.columns c =
      t.limits.layers.foldr (Layer.columns c.rowNumbers) (t.query.columns c true) := by
  rw [columns, named, h, Bool.or_true]

end QueryText

lemma Select.isCompound_unlimited {q : Select} (h : q.isCompound = false) :
    Select.isCompound { q with limit? := none } = false := by
  obtain ⟨hwith, hsetOps, horder, -⟩ := isCompound_eq_false_iff.mp h
  exact isCompound_eq_false_iff.mpr ⟨hwith, hsetOps, horder, rfl⟩

/-! ### Places -/

/-- Where a query stands in a statement. -/
inductive QueryPlace where
  /-- It is a statement. -/
  | statement
  /-- An expression is in it, or not. -/
  | membership (e : Expr) (negate : Bool)
  /-- It stands for its only value. -/
  | value
  /-- Its rows are inserted. -/
  | source (i : Insert)
  /-- It is an operand of a set operation. -/
  | operand (op : SetOp) (all : Bool)

namespace QueryPlace

/-- The draft of what a query stands in. -/
def draft (p : QueryPlace) (s : Scope) (q : Select) : Draft :=
  match p with
  | statement => ofRank.statement s (.select q)
  | membership e negate => ofRank.condition s (.inSelect e q negate)
  | value => ofRank.expr s (.subquery q)
  | source i => ofRank.statement s (.insert { i with source := .query q })
  | operand op all => ofRank.setOperation s ⟨op, all, q⟩

/-- The draft of the query itself. -/
def inner (p : QueryPlace) (s : Scope) (q : Select) : Draft :=
  match p with
  | statement | source _ => ofRank.select s q
  | membership _ _ | value => ofRank.subquery s q
  | operand _ _ =>
    if q.isCompound then ofRank.subquery s q else ofRank.body s.withoutFieldNames q false

/-- The text of the query itself. -/
def text (p : QueryPlace) (s : Scope) (q : Select) : QueryText :=
  match p with
  | statement | source _ => ⟨q.limitText s.dialect, s, q, false⟩
  | membership _ _ | value => ⟨q.limitText s.dialect, s.inQuery, q, true⟩
  | operand _ _ =>
    if q.isCompound then ⟨q.limitText s.dialect, s.inQuery, q, true⟩
    else ⟨{}, s.withoutFieldNames, { q with forUpdate := false }, false⟩

/-- A statement stands where names are written. -/
def Suits (p : QueryPlace) (s : Scope) : Prop :=
  match p with
  | statement | source _ => s.declareFields = true
  | _ => True

/-- The columns as they count at a place: those of an operand have the names of the first one. -/
def counted {γ : Type} (p : QueryPlace) (c : Columns γ) : Columns γ :=
  match p with
  | operand _ _ => c.unnamed
  | _ => c

variable {p : QueryPlace} {s : Scope} {q : Select}

/-- What is drafted around a query does not depend on it. -/
lemma exists_around (h : (p.draft s q).error? = none) :
    ∃ before after : Draft, ∀ q : Select, p.draft s q = before ++ p.inner s q ++ after := by
  cases p with
  | statement =>
    refine ⟨.empty, .empty, fun q => ?_⟩
    rw [draft, statement_ofRank, Draft.append_empty]
    rfl
  | membership e negate =>
    refine ⟨ofRank.expr s e ++ " " ++ notIf negate ++ "IN ", .empty, fun q => ?_⟩
    rw [draft, condition_ofRank, Draft.append_empty]
    rfl
  | value =>
    refine ⟨.empty, .empty, fun q => ?_⟩
    rw [draft, expr_ofRank, Draft.append_empty]
    rfl
  | source i =>
    rw [draft, statement_ofRank] at h
    change (ofRank.insertValid s { i with source := .query q }).error? = none at h
    rw [Writers.insertValid] at h
    split at h
    next => cases h
    next hskipped =>
      -- whether conflicts are passed over in front or at the end, the query stands between
      let atEnd := i.skipConflicts && s.has Feature.onConflict
      refine ⟨"INSERT " ++ Draft.onlyIf (i.skipConflicts && !atEnd) "IGNORE " ++ "INTO " ++
          Draft.qualified i.table ++ Writers.insertColumns i.columns ++
          ofRank.output s "INSERTED" i.returning ++ " ",
        Draft.onlyIf atEnd " ON CONFLICT DO NOTHING" ++
          ofRank.returning s Feature.insertReturning i.returning, fun q => ?_⟩
      rw [draft, statement_ofRank]
      change ofRank.insertValid s { i with source := .query q } = _
      rw [Writers.insertValid, if_neg hskipped, Writers.insertSource]
      simp only [inner, Draft.append_assoc]
      rfl
  | operand op all =>
    rw [draft, Writers.setOperation] at h
    split at h
    next => cases h
    next hop =>
      split at h
      next => cases h
      next hall =>
        refine ⟨s.clause (Writers.setWords s ⟨op, all, q⟩), .empty, fun q => ?_⟩
        rw [draft, Writers.setOperation, if_neg hop, if_neg hall, Draft.append_empty]
        rfl

/-- An operand without clauses that apply to more than itself. -/
lemma body_eq_draft (s : Scope) (h : q.isCompound = false) :
    ofRank.body s q false = ({} : LimitText).draft s { q with forUpdate := false } := by
  obtain ⟨hwith, hsetOps, horder, -⟩ := Select.isCompound_eq_false_iff.mp h
  have hblock : ({} : LimitText).block s { q with forUpdate := false } =
      ({} : LimitText).body s q ++ .empty ++ .empty ++ .empty ++ .empty := by
    rw [LimitText.block, hwith, hsetOps, horder]
    rfl
  simp only [Draft.append_empty] at hblock
  exact hblock.symm

/-- A query and the same without its limit, where the former is drafted. -/
lemma inner_eq_text (h : (p.inner s q).error? = none) :
    p.inner s q = (p.text s q).draft ∧
      p.inner s { q with limit? := none } = (p.text s { q with limit? := none }).draft := by
  -- the place shows the query itself, the query in parentheses, or its body alone
  have hselect {s : Scope} (h : (ofRank.select s q).error? = none) :
      ofRank.select s q = (q.limitText s.dialect).draft s q ∧
        ofRank.select s { q with limit? := none } = ({} : LimitText).draft s q :=
    ⟨Writers.select_eq_limitText h, Writers.select_unlimited_eq (Writers.error?_select h).1⟩
  have hsubquery (h : (ofRank.subquery s q).error? = none) :
      ofRank.subquery s q = "(" ++ (q.limitText s.dialect).draft s.inQuery q ++ ")" ∧
        ofRank.subquery s { q with limit? := none } =
          "(" ++ ({} : LimitText).draft s.inQuery q ++ ")" := by
    simp only [Writers.subquery, Draft.error?_append] at h ⊢
    obtain ⟨hq, hplain⟩ := hselect h.1.2
    rw [hq, hplain]
    exact ⟨rfl, rfl⟩
  cases p with
  | statement => exact hselect h
  | source i => exact hselect h
  | membership e negate => exact hsubquery h
  | value => exact hsubquery h
  | operand op all =>
    have hbody (q : Select) (hq : q.isCompound = false) :
        (operand op all).inner s q = ((operand op all).text s q).draft := by
      simp only [inner, text, hq, Bool.false_eq_true, if_false]
      exact body_eq_draft s.withoutFieldNames hq
    cases hcompound : q.isCompound with
    | false => exact ⟨hbody q hcompound, hbody _ (Select.isCompound_unlimited hcompound)⟩
    | true =>
      simp only [inner, hcompound, if_true] at h
      obtain ⟨hq, hunlimited⟩ := hsubquery h
      constructor
      · simp only [inner, text, hcompound, if_true]
        exact hq
      -- without its limit the operand may be plain, and is then written without parentheses
      · cases hplain : Select.isCompound { q with limit? := none } with
        | false => exact hbody _ hplain
        | true =>
          simp only [inner, text, hplain, if_true]
          exact hunlimited

/-! ### The columns of limited queries -/

/-- The queries around a limited one add the numbers of the rows where they write an offset. -/
lemma foldr_columns_limitText {γ : Type} (d : Dialect) (q : Select) (rn : γ) (columns : List γ) :
    (q.limitText d).layers.foldr (Layer.columns rn) columns =
      if d = .oracle11g ∧ q.limitOrEmpty.offset?.isSome then columns ++ [rn] else columns := by
  have hform : d.limitForm = .rowNumber ↔ d = .oracle11g := by
    cases d <;> decide
  by_cases hd : d = .oracle11g
  · obtain ⟨hlimited, hempty⟩ | ⟨hlimited, hne⟩ := q.limited?_cases
    · rw [hempty, Select.limitText, hlimited, if_neg (by simp)]
      rfl
    · rw [Select.limitText, hlimited, hform.mpr hd]
      generalize q.limitOrEmpty = l at hne
      obtain ⟨_ | n, _ | m⟩ := l
      · exact absurd rfl hne
      · exact (if_pos ⟨hd, rfl⟩).symm
      · exact (if_neg fun h => Bool.false_ne_true h.2).symm
      · exact (if_pos ⟨hd, rfl⟩).symm
  · rw [Select.layers_limitText d q (mt hform.mp hd), if_neg fun h => hd h.1]
    rfl

/-- The columns of a query at its place, with its limit. -/
lemma columns_text {γ : Type} (c : Columns γ) (hs : p.Suits s) :
    (p.text s q).columns (p.counted c) =
      (q.limitText s.dialect).layers.foldr (Layer.columns c.rowNumbers)
        (q.columns (p.counted c) true) := by
  cases p with
  | statement => exact QueryText.columns_of_declareFields c hs
  | source i => exact QueryText.columns_of_declareFields c hs
  | membership e negate => exact QueryText.columns_of_declareFields c rfl
  | value => exact QueryText.columns_of_declareFields c rfl
  | operand op all =>
    rw [text]
    split
    next => exact QueryText.columns_of_declareFields c.unnamed rfl
    next hcompound =>
      -- a query that needs no parentheses has no limit, and its names are left out
      obtain ⟨-, -, -, hlimited⟩ :=
        Select.isCompound_eq_false_iff.mp (Bool.eq_false_iff.mpr hcompound)
      rw [Select.limitText, hlimited]
      rfl

/-- **The columns of a limited query.** Wherever a query stands, what is drafted around it does not
depend on its limit, and with the limit it has the same columns as without it, except on the engine
that limits rows by conditions on their numbers: there, a query with an offset has the numbers as
one more column. The columns of an operand of a set operation count without the names they are
given, since these are those of the first operand. -/
theorem columns_limited_iff {γ : Type} (c : Columns γ) (p : QueryPlace) {s : Scope} {q : Select}
    (hs : p.Suits s) (h : (p.draft s q).error? = none) :
    let unlimited : Select := { q with limit? := none }
    let columns (q : Select) := (p.text s q).columns (p.counted c)
    (∃ before after : Draft, p.draft s q = before ++ (p.text s q).draft ++ after ∧
        p.draft s unlimited = before ++ (p.text s unlimited).draft ++ after) ∧
      (columns q = columns unlimited ↔
        ¬(s.dialect = .oracle11g ∧ q.limitOrEmpty.offset?.isSome)) ∧
      (s.dialect = .oracle11g → q.limitOrEmpty.offset?.isSome →
        columns q = columns unlimited ++ [c.rowNumbers]) := by
  intro unlimited columns
  -- the surroundings are the same with the limit and without it, so the columns are those of the
  -- inner text
  obtain ⟨before, after, haround⟩ := exists_around h
  have hinner : (p.inner s q).error? = none := by
    rw [haround, Draft.error?_append, Draft.error?_append] at h
    exact h.1.2
  obtain ⟨htext, hunlimited⟩ := inner_eq_text hinner
  have hplain : columns unlimited = q.columns (p.counted c) true := columns_text c hs
  have hcolumns : columns q =
      if s.dialect = .oracle11g ∧ q.limitOrEmpty.offset?.isSome then
        columns unlimited ++ [c.rowNumbers]
      else columns unlimited := by
    rw [hplain]
    exact (columns_text c hs).trans (foldr_columns_limitText _ _ _ _)
  refine ⟨⟨before, after, ?_, ?_⟩, ?_, fun hd hoffset => hcolumns.trans (if_pos ⟨hd, hoffset⟩)⟩
  · rw [haround, htext]
  · rw [haround, hunlimited]
  · rw [hcolumns]
    split
    next hwritten => simp [hwritten]
    next hwritten => simp [hwritten]

/-- A query with a limit that an expression may be in. -/
theorem columns_limited_iff_count :
    let r : Renderer := { dialect := .oracle11g, settings := { quoting := .never } }
    let s : Scope := { target := r.target }
    let c : Columns (Option Name) :=
      ⟨fun _ => [], fun f => [f.alias?.or f.expr.fieldName?], some (.ofText "rn")⟩
    let q : Select :=
      { fields := [⟨.column (.ofText "a"), some (.ofText "b")⟩],
        tables := [.ofName (.ofText "t")], limit? := some ⟨some 10, none⟩ }
    let p : QueryPlace := .membership (.column (.ofText "x")) false
    p.Suits s ∧ (p.draft s q).error? = none ∧
      (r.render (.select { tables := [.ofName (.ofText "u")],
                           filter? := some (.inSelect (.column (.ofText "x")) q false) })).map
          Rendered.sql =
        .ok ("SELECT * FROM u WHERE x IN " ++
          "(SELECT * FROM (SELECT a AS b FROM t) q WHERE ROWNUM <= 10)") ∧
      (p.text s q).columns (p.counted c) = [some (.ofText "b")] := by
  intro r s c q p
  have herror : (p.draft s q).error? = none := by decide +kernel
  refine ⟨trivial, herror, by decide +kernel, ?_⟩
  obtain ⟨-, hiff, -⟩ := columns_limited_iff c p (s := s) trivial herror
  exact hiff.mpr (by simp [q, Select.limitOrEmpty])

/-- A query with an offset that an expression may be in: it has two columns, and one without its
limit. -/
theorem columns_limited_offset :
    let r : Renderer := { dialect := .oracle11g, settings := { quoting := .never } }
    let s : Scope := { target := r.target }
    let c : Columns (Option Name) :=
      ⟨fun _ => [], fun f => [f.alias?.or f.expr.fieldName?], some (.ofText "rn")⟩
    let q (limit? : Option Limit) : Select :=
      { fields := [⟨.column (.ofText "a"), none⟩], tables := [.ofName (.ofText "t")], limit? }
    let p : QueryPlace := .membership (.column (.ofText "x")) false
    let sql (limit? : Option Limit) : Except Error String :=
      (r.render (.select
        { tables := [.ofName (.ofText "u")],
          filter? := some (.inSelect (.column (.ofText "x")) (q limit?) false) })).map Rendered.sql
    let columns (limit? : Option Limit) : List (Option Name) :=
      (p.text s (q limit?)).columns (p.counted c)
    sql none = .ok "SELECT * FROM u WHERE x IN (SELECT a FROM t)" ∧
      sql (some ⟨some 10, some 20⟩) =
        .ok ("SELECT * FROM u WHERE x IN (SELECT * FROM (SELECT q.*, ROWNUM rn FROM " ++
          "(SELECT a FROM t) q WHERE ROWNUM <= 30) WHERE rn > 20)") ∧
      columns none = [some (.ofText "a")] ∧
      columns (some ⟨some 10, some 20⟩) = [some (.ofText "a"), some (.ofText "rn")] ∧
      columns (some ⟨some 10, some 20⟩) ≠ columns none := by
  intro r s c q p sql columns
  exact ⟨by decide +kernel, by decide +kernel, rfl, rfl, by decide⟩

end QueryPlace

end Polysql

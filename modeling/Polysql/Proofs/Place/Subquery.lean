import Polysql.Proofs.Draft.Statement
import Polysql.Proofs.Place.Query
import Polysql.Proofs.Writing.Text
/-!
A query inside of another, at different places. Of the place only a few things matter to its text:
besides the engine, its depth and whether values are written out, these are whether columns keep
their qualifier and whether tables are introduced with their alias (`Writers.subquery_text_iff`).
-/

namespace Polysql

/-! ### Places that agree -/

/-- Two places have the same engine, the same depth, and write out values alike. -/
structure Scope.Alike (s s' : Scope) : Prop where
  target : s.target = s'.target
  depth : s.depth = s'.depth
  inline : s.inline = s'.inline

lemma Scope.Alike.symm {s s' : Scope} (h : s.Alike s') : s'.Alike s :=
  ⟨h.target.symm, h.depth.symm, h.inline.symm⟩

/-- Two places introduce columns and tables alike. -/
structure Scope.NamesAlike (s s' : Scope) : Prop where
  qualify : s.qualify = s'.qualify
  declareTables : s.declareTables = s'.declareTables

namespace Writers

variable {s s' : Scope} {q : Select}

/-- Places that introduce names alike have the same draft of a query inside. -/
lemma subquery_congr (h : s.Alike s') (hnames : s.NamesAlike s') {n n' : Nat} (hn : q.rank ≤ n)
    (hn' : q.rank ≤ n') : (level n).subquery s q = (level n').subquery s' q := by
  have hmoves := moves_of_le ⟨false, some s'.inBlock⟩ hn hn'
  -- the other flags are set anew within parentheses
  have hplace : Move.scope ⟨false, some s'.inBlock⟩ s.inQuery = s'.inQuery := by
    obtain ⟨htarget, hdepth, hinline⟩ := h
    obtain ⟨hqualify, hdeclare⟩ := hnames
    cases s
    cases s'
    cases htarget
    cases hdepth
    cases hinline
    cases hqualify
    cases hdeclare
    simp [Move.scope, Scope.inQuery]
  rw [subquery, subquery, ← hplace, ← hmoves.select s.inQuery (Nat.le_refl _)]
  rfl

/-! ### Places that do not agree -/

/-- A query without a limit has nothing that limits it in front of what is selected. -/
lemma limitInFront_unlimited (s : Scope) (h : q.limited? = none) :
    Draft.limitInFront s q = .empty := by
  rw [Draft.limitInFront, h]
  rfl

lemma limitAtEnd_unlimited (s : Scope) (h : q.limited? = none) :
    Draft.limitAtEnd s q = .empty := by
  rw [Draft.limitAtEnd, h]
  rfl

/-- The body of a query that only names what is selected, from where, and on which condition. -/
lemma body_plain (w : Writers) (fields : List SelectField) (tables : List Table)
    (filter? : Option Condition) (setOps : List SetOperation) (first : Bool) :
    w.body s { fields, tables, filter?, setOps } first =
      "SELECT " ++ w.selectFields s fields ++ w.fromClause s tables filter?.isSome ++
        w.whereClause s (rowCondition s.dialect { fields, tables, filter? }) := by
  have hfront : Draft.limitInFront s { fields, tables, filter?, setOps } = .empty :=
    limitInFront_unlimited s rfl
  simp [body, hfront, Draft.ofOption, Draft.onlyIf, rowCondition]

/-- A query with set operations that are all that applies to it as a whole. -/
lemma draftSelect_setOps (w : Writers) (fields : List SelectField) (tables : List Table)
    (filter? : Option Condition) (setOps : List SetOperation) :
    w.draftSelect s { fields, tables, filter?, setOps } =
      w.body s { fields, tables, filter?, setOps } true ++
        Draft.concat (setOps.map (w.setOperation s)) := by
  have hunlimited : Select.limited? { fields, tables, filter?, setOps } = none := rfl
  have hend := limitAtEnd_unlimited s hunlimited
  rw [draftSelect, hunlimited]
  simp [selectLimited, hend, Draft.ofOption, orderBy, Draft.onlyIf]

/-- A query that only names what is selected, from where, and on which condition. -/
lemma draftSelect_plain (w : Writers) (fields : List SelectField) (tables : List Table)
    (filter? : Option Condition) :
    w.draftSelect s { fields, tables, filter? } =
      "SELECT " ++ w.selectFields s fields ++ w.fromClause s tables filter?.isSome ++
        w.whereClause s (rowCondition s.dialect { fields, tables, filter? }) := by
  rw [draftSelect_setOps, body_plain, List.map_nil]
  exact Draft.append_empty _

/-- A query of one column. -/
lemma subquery_column (n : Name) :
    (level 3).subquery s { fields := [⟨.column n, none⟩] } =
      "(" ++ "SELECT " ++ .column s n ++ (fromClause (level 2) s.inQuery [] false ++ ")") := by
  have hfield : (level 2).selectFields s.inQuery [⟨.column n, none⟩] = .column s n :=
    Draft.append_empty (.column s n)
  have hwhere : (level 2).whereClause s.inQuery (rowCondition s.inQuery.dialect
      { fields := [⟨.column n, none⟩], tables := [] }) = .empty := rfl
  change "(" ++ (level 2).draftSelect s.inQuery { fields := [⟨.column n, none⟩] } ++ ")" = _
  rw [draftSelect_plain, hfield, hwhere, Draft.append_empty, Option.isSome_none]
  simp only [Draft.append_assoc]

/-- A query of one table. -/
lemma subquery_table (t : NamedTable) :
    (level 3).subquery s { tables := [.named t] } =
      "(" ++ "SELECT " ++ "*" ++ s.inQuery.clause "FROM " ++ .namedTable s t ++ ")" := by
  have hwhere : (level 2).whereClause s.inQuery (rowCondition s.inQuery.dialect
      { fields := [], tables := [.named t] }) = .empty := rfl
  have hfrom : (level 2).fromClause s.inQuery [.named t] false =
      s.inQuery.clause "FROM " ++ .namedTable s t := rfl
  have hall : (level 2).selectFields s.inQuery [] = "*" := rfl
  change "(" ++ (level 2).draftSelect s.inQuery { tables := [.named t] } ++ ")" = _
  rw [draftSelect_plain, hwhere, Option.isSome_none, hfrom, hall, Draft.append_empty]
  simp only [Draft.append_assoc]

end Writers

/-! ### Texts that differ -/

namespace Style

variable (st : Style)

lemma fixed_column (s : Scope) (n : Name) : st.Fixed (.column s n) :=
  fixed_of_written (by simp [Draft.column]) st.settings.parameters

lemma fixed_clause (s : Scope) (keyword : String) : st.Fixed (s.clause keyword) :=
  fixed_of_written (by simp) st.settings.parameters

lemma text_clause (s : Scope) (keyword : String) :
    st.text (s.clause keyword) = .ok (st.separator s.depth ++ keyword) := by
  have hpiece : st.text (.ofPiece (.clause s.depth)) = .ok (st.separator s.depth) := by
    rw [text, run_ofPiece]
    change Except.ok ("" ++ _) = _
    rw [String.empty_append]
  rw [Scope.clause, text_append_text, hpiece]
  rfl

lemma fixed_namedTable (s : Scope) (t : NamedTable) : st.Fixed (.namedTable s t) :=
  fixed_of_written (by simp [Draft.namedTable, Draft.tableAlias]) st.settings.parameters

/-- The table of one row and what follows have a text. -/
lemma text_fromClause (w : Writers) (s : Scope) (after : String) :
    st.Fixed (w.fromClause s [] false ++ .text after) ∧
      ∃ z, st.text (w.fromClause s [] false ++ .text after) = .ok z := by
  have hfollows : (w.fromClause s [] false).Follows .written := by simp [Writers.fromClause]
  have hfixed : st.Fixed (w.fromClause s [] false) :=
    fixed_of_written hfollows st.settings.parameters
  refine ⟨hfixed.append (st.fixed_text after), ?_⟩
  rw [text_append_text, Writers.fromClause, List.filter_nil]
  cases s.dialect.needsDual false <;> simp [Draft.onlyIf, text_append_text, text_clause]

/-- A column without its qualifier is the shorter one. -/
lemma text_column_lt {s s' : Scope} (hs : s.qualify = true) (hs' : s'.qualify = false)
    (p p' : NamePart) : ∃ x x', st.text (.column s ⟨[p, p']⟩) = .ok x ∧
      st.text (.column s' ⟨[p, p']⟩) = .ok x' ∧ x'.length < x.length := by
  refine ⟨st.name ⟨[p, p']⟩, st.name ⟨[p']⟩, ?_, ?_, ?_⟩
  · rw [Draft.column, if_pos hs, st.text_qualified]
  · rw [Draft.column, if_neg (by simp [hs'])]
    exact st.text_qualified ⟨[p']⟩
  · have hname : st.name ⟨[p, p']⟩ =
        p.written st.settings st.dialect.family ++ "." ++ st.name ⟨[p']⟩ :=
      String.intercalate_cons_cons
    have hdot : ".".length = 1 := by decide
    rw [hname, String.length_append, String.length_append]
    omega

/-- A table that is only referred to by its alias is the shorter one. -/
lemma text_namedTable_lt {s s' : Scope} (hs : s.declareTables = true)
    (hs' : s'.declareTables = false) (t : Name) (p : NamePart) : ∃ x x',
      st.text (.namedTable s ⟨t, some ⟨[p]⟩, []⟩) = .ok x ∧
        st.text (.namedTable s' ⟨t, some ⟨[p]⟩, []⟩) = .ok x' ∧ x'.length < x.length := by
  have halias (words : String) :
      st.text (.qualified t ++ (.text words ++ .qualified ⟨[p]⟩)) =
        .ok (st.name t ++ (words ++ st.name ⟨[p]⟩)) := by
    have hp := st.fixed_qualified ⟨[p]⟩
    rw [text_append _ ((st.fixed_text words).append hp), text_text_append _ hp,
      st.text_qualified, st.text_qualified]
    rfl
  -- a reference is the alias alone, a declaration has the name in front of it
  have hreference : Draft.namedTable s' ⟨t, some ⟨[p]⟩, []⟩ = .qualified ⟨[p]⟩ := by
    rw [Draft.namedTable, if_neg (by simp [hs'])]
    rfl
  have hdeclared : Draft.namedTable s ⟨t, some ⟨[p]⟩, []⟩ = .qualified t ++
      (.text (if s.has Feature.bareTableAlias then " " else " AS ") ++ .qualified ⟨[p]⟩) := by
    rw [Draft.namedTable, if_pos hs]
    change Draft.qualified t ++ (_ ++ Draft.qualified ⟨[p]⟩ ++ .empty) = _
    rw [Draft.append_empty]
  rw [hreference, hdeclared]
  refine ⟨_, _, halias _, st.text_qualified _, ?_⟩
  have hwords : 0 < (if s.has Feature.bareTableAlias then " " else " AS ").length := by
    split <;> decide
  rw [String.length_append, String.length_append]
  omega

variable {st} in
/-- What stands between the same texts has the same length if the whole text is the same. -/
lemma length_eq_of_between {before after : Draft} {d d' : Draft} (hafter : st.Fixed after)
    (hd : st.Fixed d) (hd' : st.Fixed d') {x x' y z : String} (hx : st.text d = .ok x)
    (hx' : st.text d' = .ok x') (hy : st.text before = .ok y) (hz : st.text after = .ok z)
    (h : st.text (before ++ d ++ after) = st.text (before ++ d' ++ after)) :
    x.length = x'.length := by
  rw [text_append _ hafter, text_append _ hafter, text_append _ hd, text_append _ hd', hx, hx', hy,
    hz] at h
  injection h with h
  have hlength : (y ++ x ++ z).length = (y ++ x' ++ z).length := congrArg String.length h
  simp only [String.length_append] at hlength
  omega

end Style

/-! ### The text of a query inside of another -/

namespace Writers

variable {s s' : Scope}

lemma fromClause_congr (h : s.Alike s') (w : Writers) :
    w.fromClause s.inQuery [] false = w.fromClause s'.inQuery [] false := by
  have hdialect : s.inQuery.dialect = s'.inQuery.dialect := congrArg Target.dialect h.target
  have hclause : s.inQuery.clause "FROM " = s'.inQuery.clause "FROM " := by
    rw [Scope.clause, Scope.clause, Scope.inQuery, Scope.inQuery, h.depth]
  simp only [fromClause, List.filter_nil, Scope.family, hdialect, hclause]

lemma clause_congr (h : s.Alike s') : s.inQuery.clause "FROM " = s'.inQuery.clause "FROM " := by
  rw [Scope.clause, Scope.clause, Scope.inQuery, Scope.inQuery, h.depth]

/-- A column keeps its qualifier at both places if a query of it is written alike. -/
lemma qualify_of_text_eq (h : s.Alike s') (st : Style) (p p' : NamePart)
    (htext : st.text ((level 3).subquery s { fields := [⟨.column ⟨[p, p']⟩, none⟩] }) =
      st.text ((level 3).subquery s' { fields := [⟨.column ⟨[p, p']⟩, none⟩] }))
    (hs : s.qualify = true) : s'.qualify = true := by
  cases hs' : s'.qualify with
  | true => rfl
  | false =>
    obtain ⟨x, x', hx, hx', hlt⟩ := st.text_column_lt hs hs' p p'
    obtain ⟨hfixed, z, hz⟩ := st.text_fromClause (level 2) s'.inQuery ")"
    rw [subquery_column, subquery_column, fromClause_congr h] at htext
    have hlength := Style.length_eq_of_between hfixed (st.fixed_column s _) (st.fixed_column s' _)
      hx hx' (st.text_append_text "(" "SELECT ") hz htext
    omega

/-- A table is introduced at both places if a query of it is written alike. -/
lemma declareTables_of_text_eq (h : s.Alike s') (st : Style) (t : Name) (p : NamePart)
    (htext : st.text ((level 3).subquery s { tables := [.named ⟨t, some ⟨[p]⟩, []⟩] }) =
      st.text ((level 3).subquery s' { tables := [.named ⟨t, some ⟨[p]⟩, []⟩] }))
    (hs : s.declareTables = true) : s'.declareTables = true := by
  cases hs' : s'.declareTables with
  | true => rfl
  | false =>
    -- the table that is declared is longer, and what stands around it is not
    obtain ⟨x, x', hx, hx', hlt⟩ := st.text_namedTable_lt hs hs' t p
    rw [subquery_table, subquery_table, clause_congr h] at htext
    have hstart : st.text ("(" ++ "SELECT " ++ "*" ++ s'.inQuery.clause "FROM ") =
        .ok ("(" ++ "SELECT " ++ "*" ++ (st.separator s'.inQuery.depth ++ "FROM ")) := by
      rw [Style.text_append _ (st.fixed_clause _ _), Style.text_append_text, Style.text_append_text,
        st.text_text, st.text_clause]
      rfl
    have hlength := Style.length_eq_of_between (st.fixed_text ")") (st.fixed_namedTable s _)
      (st.fixed_namedTable s' _) hx hx' hstart (st.text_text ")") htext
    omega

/-- **A query inside of another.** At two places of the same engine and depth that write out values
alike, all queries are written alike after the same number of bound values if and only if both
places introduce columns and tables alike. -/
theorem subquery_text_iff (h : s.Alike s') :
    (∀ (q : Select) (n n' : Nat), q.rank ≤ n → q.rank ≤ n' →
      ∀ (st : Style) (r r' : Written), r.error? = none → r'.error? = none →
        r.parameters.length = r'.parameters.length →
        ∃ added : Except Error (String × List Parameter),
          st.run r ((level n).subquery s q) = added.map r.append ∧
            st.run r' ((level n').subquery s' q) = added.map r'.append) ↔
      s.NamesAlike s' := by
  constructor
  · intro hall
    have htext (q : Select) (hq : q.rank = 3) (st : Style) :
        st.text ((level 3).subquery s q) = st.text ((level 3).subquery s' q) := by
      obtain ⟨added, hrun, hrun'⟩ :=
        hall q 3 3 (Nat.le_of_eq hq) (Nat.le_of_eq hq) st (.start []) (.start []) rfl rfl rfl
      rw [Style.text, Style.text, hrun, hrun']
    let st : Style := ⟨s.dialect, {}⟩
    let p : NamePart := ⟨"a", .byDefault, by decide⟩
    -- one query shows each of the flags: a column of two parts, and a table with an alias
    have hcolumn := htext { fields := [⟨.column ⟨[p, p]⟩, none⟩] } rfl st
    have htable := htext { tables := [.named ⟨⟨[p]⟩, some ⟨[p]⟩, []⟩] } rfl st
    refine ⟨Bool.eq_iff_iff.mpr ⟨?_, ?_⟩, Bool.eq_iff_iff.mpr ⟨?_, ?_⟩⟩
    · exact qualify_of_text_eq h st p p hcolumn
    · exact qualify_of_text_eq h.symm st p p hcolumn.symm
    · exact declareTables_of_text_eq h st ⟨[p]⟩ p htable
    · exact declareTables_of_text_eq h.symm st ⟨[p]⟩ p htable.symm
  · intro hnames q n n' hn hn' st r r' hr hr' hlength
    -- both are one draft, which is settled and so adds the same behind any text
    rw [subquery_congr h hnames hn hn']
    have hfollows := (level_settled n').subquery s' q
    have hmanner : s'.manner ≠ .procedural := by
      rw [Scope.manner]
      split <;> decide
    exact st.run_append_added hmanner hfollows hr hr' hlength

/-- In a block and under a junction a query inside is written as in what another query selects. -/
theorem subquery_text_junction :
    let target := Renderer.target { dialect := .postgres }
    let q : Select := { fields := [⟨.column (.ofTexts ["u", "b"]), none⟩] }
    let s : Scope :=
      { target, declareFields := false, junction? := some .or, inBlock := true, absorbs := true }
    s.Alike { target } ∧ ∃ added : Except Error (String × List Parameter),
      Style.run ⟨.postgres, {}⟩ (.start [⟨.null, .unknown, none⟩]) ((level 5).subquery s q) =
          added.map (Written.start [⟨.null, .unknown, none⟩]).append ∧
        Style.run ⟨.postgres, {}⟩ (.start [⟨.null, .unknown, none⟩])
            ((level 3).subquery { target } q) =
          added.map (Written.start [⟨.null, .unknown, none⟩]).append := by
  intro target q s
  have halike : s.Alike { target } := ⟨rfl, rfl, rfl⟩
  exact ⟨halike, (subquery_text_iff halike).mpr ⟨rfl, rfl⟩ q 5 3 (by decide) (by decide) _ _ _
    rfl rfl rfl⟩

/-- What an insert returns leaves the qualifiers out, and so does a query inside of it. -/
theorem subquery_text_returning :
    let r : Renderer := { dialect := .postgres }
    let q : Select := { fields := [⟨.column (.ofTexts ["u", "b"]), none⟩],
                        tables := [.named ⟨.ofTexts ["u"], none, []⟩] }
    let selected : Statement := .select { fields := [⟨.subquery q, none⟩] }
    let returned : Statement :=
      .insert ⟨.ofTexts ["t"], [.ofTexts ["a"]], .values [[.number 1]], false, [.subquery q]⟩
    Scope.Alike { target := r.target } (Scope.unqualified { target := r.target }) ∧
      (r.render selected).map Rendered.sql = .ok "SELECT (SELECT \"u\".\"b\" FROM \"u\")" ∧
      (r.render returned).map Rendered.sql =
        .ok ("INSERT INTO \"t\" (\"a\") VALUES (1) " ++
          "RETURNING (SELECT \"b\" FROM \"u\")") ∧
      r.style.text ((level q.rank).subquery { target := r.target } q) ≠
        r.style.text ((level q.rank).subquery (Scope.unqualified { target := r.target }) q) := by
  intro r q selected returned
  refine ⟨⟨rfl, rfl, rfl⟩, ?_, ?_, ?_⟩
  · decide +kernel
  · decide +kernel
  · decide +kernel

end Writers

end Polysql

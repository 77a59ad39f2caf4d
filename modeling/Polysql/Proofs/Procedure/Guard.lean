import Polysql.Proofs.Rank.Statement
import Polysql.Proofs.Text.Embedded
import Polysql.Proofs.Writing.Text
/-!
Guarded definitions. Where an engine lacks the existence check of a definition, the text carries the
definition without the check: as a literal that is executed, or between the words of a `TRY` block.
Reading it back gives the text of that definition, whatever stands in it
(`Guard.carried?_wrapped`, `Renderer.render_guarded`).
-/

namespace Polysql

/-! ### The definition without its check -/

/-- The definition without its check. -/
def Statement.unchecked : Statement → Statement
  | createTable c => createTable { c with ifNotExists := false }
  | createIndex c => createIndex { c with ifNotExists := false }
  | createSequence c => createSequence { c with ifNotExists := false }
  | dropTable d => dropTable { d with ifExists := false }
  | dropIndex d => dropIndex { d with ifExists := false }
  | dropSequence d => dropSequence { d with ifExists := false }
  | stmt => stmt

lemma Statement.isDefinition_of_guard? {stmt : Statement} {g : Guard} (h : stmt.guard? = some g) :
    stmt.isDefinition = true ∧ stmt.unchecked.isDefinition = true := by
  cases stmt <;> first | exact ⟨rfl, rfl⟩ | cases h

/-- The families with a block that passes over an error. -/
def Family.catching : List Family :=
  [.oracle, .sqlServer, .db2, .firebird, .postgres, .yugabyteDb, .redshift]

/-- A definition whose check the engine lacks, and the definition without the check: both are
refused, or the first is the block around the other one. -/
def Guard.Surrounds (g : Guard) (s : Scope) (d d' : Draft) : Prop :=
  (∃ e, d = .fail e ∧ d' = .fail e) ∨ d = g.block s fun _ => d'

namespace Guard

variable {g : Guard} {s : Scope}

lemma surrounds_fail (e : Error) : g.Surrounds s (.fail e) (.fail e) :=
  .inl ⟨e, rfl, rfl⟩

/-- What stands in the block around a definition is the definition without its check. -/
lemma surrounds_draft {asked : Bool} (definition : Scope → Bool → Draft) (hasked : asked = true)
    (hcheck : s.has g.check = false) (hplace : definition s.inText false = definition s false) :
    g.Surrounds s (g.draft s asked definition) (g.draft s false definition) := by
  refine .inr ?_
  rw [draft, hcheck, hasked, draft, block, block, hplace]
  rfl

end Guard

namespace Writers

variable {target : Target} {w : Writers}

lemma surrounds_createTable {c : CreateTable} (hasked : c.ifNotExists = true)
    (hcheck : Scope.has { target } Guard.createTable.check = false) :
    Guard.createTable.Surrounds { target } (w.createTable { target } c)
      (w.createTable { target } { c with ifNotExists := false }) :=
  Guard.surrounds_draft _ hasked hcheck rfl

lemma surrounds_createIndex {c : CreateIndex} (hasked : c.ifNotExists = true)
    (hcheck : Scope.has { target } Guard.createIndex.check = false) :
    Guard.createIndex.Surrounds { target } (w.createIndex { target } c)
      (w.createIndex { target } { c with ifNotExists := false }) := by
  unfold createIndex
  split
  · exact Guard.surrounds_fail _
  · exact Guard.surrounds_draft _ hasked hcheck rfl

variable {s : Scope}

lemma surrounds_createSequence {c : CreateSequence} (hasked : c.ifNotExists = true)
    (hcheck : s.has Guard.createSequence.check = false) :
    Guard.createSequence.Surrounds s (createSequence s c)
      (createSequence s { c with ifNotExists := false }) := by
  unfold createSequence
  split
  · exact Guard.surrounds_fail _
  · exact Guard.surrounds_draft _ hasked hcheck rfl

lemma surrounds_dropTable {d : DropTable} (hasked : d.ifExists = true)
    (hcheck : s.has Guard.dropTable.check = false) :
    Guard.dropTable.Surrounds s (dropTable s d) (dropTable s { d with ifExists := false }) := by
  have hwords (words : String) : Guard.dropTable.Surrounds s (dropTableBy s d words)
      (dropTableBy s { d with ifExists := false } words) :=
    Guard.surrounds_draft _ hasked hcheck rfl
  unfold dropTable
  split
  · exact hwords _
  · split
    · exact hwords _
    · split
      · exact hwords _
      · exact Guard.surrounds_fail _

lemma surrounds_dropIndex {d : DropIndex} (hasked : d.ifExists = true)
    (hcheck : s.has Guard.dropIndex.check = false) :
    Guard.dropIndex.Surrounds s (dropIndex s d) (dropIndex s { d with ifExists := false }) := by
  have htable (table? : Option Name) : Guard.dropIndex.Surrounds s (dropIndexOn s d table?)
      (dropIndexOn s { d with ifExists := false } table?) :=
    Guard.surrounds_draft _ hasked hcheck rfl
  unfold dropIndex
  split
  · exact htable _
  · split
    · exact Guard.surrounds_fail _
    · exact htable _

lemma surrounds_dropSequence {d : DropSequence} (hasked : d.ifExists = true)
    (hcheck : s.has Guard.dropSequence.check = false) :
    Guard.dropSequence.Surrounds s (dropSequence s d)
      (dropSequence s { d with ifExists := false }) := by
  unfold dropSequence
  split
  · exact Guard.surrounds_fail _
  · exact Guard.surrounds_draft _ hasked hcheck rfl

/-- A definition that asks for a check, and the same definition without it. -/
lemma surrounds_draftStatement {stmt : Statement} {g : Guard} (hg : stmt.guard? = some g)
    (hcheck : Scope.has { target } g.check = false) :
    g.Surrounds { target } (w.draftStatement { target } stmt)
      (w.draftStatement { target } stmt.unchecked) := by
  -- six statements can be guarded, if they ask for it
  cases stmt with
  | createTable c =>
    obtain ⟨hasked, ⟨⟩⟩ := Option.ite_none_right_eq_some.mp hg
    exact surrounds_createTable hasked hcheck
  | createIndex c =>
    obtain ⟨hasked, ⟨⟩⟩ := Option.ite_none_right_eq_some.mp hg
    exact surrounds_createIndex hasked hcheck
  | createSequence c =>
    obtain ⟨hasked, ⟨⟩⟩ := Option.ite_none_right_eq_some.mp hg
    exact surrounds_createSequence hasked hcheck
  | dropTable d =>
    obtain ⟨hasked, ⟨⟩⟩ := Option.ite_none_right_eq_some.mp hg
    exact surrounds_dropTable hasked hcheck
  | dropIndex d =>
    obtain ⟨hasked, ⟨⟩⟩ := Option.ite_none_right_eq_some.mp hg
    exact surrounds_dropIndex hasked hcheck
  | dropSequence d =>
    obtain ⟨hasked, ⟨⟩⟩ := Option.ite_none_right_eq_some.mp hg
    exact surrounds_dropSequence hasked hcheck
  | _ => cases hg

end Writers

lemma Draft.ofStatement_eq (target : Target) {stmt : Statement} {k : Nat}
    (h : stmt.rank = k + 1) :
    ofStatement target stmt = (Writers.level k).draftStatement { target } stmt := by
  rw [ofStatement, h]
  rfl

lemma Statement.rank_unchecked (stmt : Statement) : stmt.unchecked.rank = stmt.rank := by
  cases stmt <;> rfl

/-- A definition that is guarded on an engine is refused with or without its check, or it is the
block around the definition without it. -/
lemma Draft.ofStatement_guarded (target : Target) {stmt : Statement} {g : Guard}
    (hg : stmt.guard? = some g) (hlacks : g.check.contains target.dialect = false) :
    g.Surrounds { target } (ofStatement target stmt) (ofStatement target stmt.unchecked) := by
  obtain ⟨k, hk⟩ := stmt.exists_rank_eq
  rw [ofStatement_eq target hk, ofStatement_eq target (stmt.rank_unchecked.trans hk)]
  exact Writers.surrounds_draftStatement hg hlacks

/-! ### The text around a definition -/

/-- A text as a string literal. -/
def Text.literal (s : String) : String :=
  "'" ++ doubled '\'' s ++ "'"

namespace Guard

variable (g : Guard)

/-- What stands between the dollar tags on Postgres. -/
def dollarBody (s : String) : String :=
  " " ++ ("BEGIN EXECUTE '" ++ Text.doubled '\'' s ++ "'; EXCEPTION WHEN " ++
    g.postgresCondition ++ " THEN NULL; END") ++ " "

/-- The text around a definition, by families. -/
def wrapped (f : Family) (s : String) : String :=
  match f with
  | .oracle =>
    "BEGIN EXECUTE IMMEDIATE " ++ Text.literal s ++
      "; EXCEPTION WHEN OTHERS THEN IF SQLCODE != " ++ g.oracleCode ++ " THEN RAISE; END IF; END;"
  | .sqlServer =>
    "BEGIN TRY " ++ s ++ " END TRY BEGIN CATCH IF ERROR_NUMBER() != " ++ g.sqlServerCode ++
      " THROW; END CATCH"
  | .db2 =>
    "BEGIN DECLARE CONTINUE HANDLER FOR SQLSTATE '" ++ g.db2State ++
      "' BEGIN END; EXECUTE IMMEDIATE " ++ Text.literal s ++ "; END"
  | .firebird =>
    "EXECUTE BLOCK AS BEGIN EXECUTE STATEMENT " ++ Text.literal s ++
      "; WHEN SQLCODE -607 DO BEGIN END END"
  | .postgres | .yugabyteDb | .redshift => Wrapping.dollars.around (g.dollarBody s)
  | _ => s

/-- Engines without a block that passes over an error refuse a definition that needs one. -/
lemma block_of_not_catching {s : Scope} (definition : Scope → Draft)
    (h : s.family ∉ Family.catching) : g.block s definition = s.refuse g.words := by
  dsimp only [block]
  split <;> first | rfl | (rename_i hf; exact absurd (hf ▸ by decide) h)

/-- The text of a block around a definition is that of the definition, wrapped. -/
lemma text_block {st : Style} {target : Target} {d : Draft} (hd : d.Follows .written)
    (h : target.dialect.family ∈ Family.catching) :
    st.text (g.block { target } fun _ => d) =
      (st.text d).map (g.wrapped target.dialect.family) := by
  have hembed := st.fixed_embed (by decide) .quoted hd
  have hd' : st.Fixed d := Style.fixed_of_written hd st.settings.parameters
  -- all forms but one hold the statement as a literal
  have hliteral : st.Fixed ("'" ++ .embed .quoted d ++ "'") :=
    ((st.fixed_text _).append hembed).append (st.fixed_text _)
  have htext : st.text ("'" ++ .embed .quoted d ++ "'") = (st.text d).map Text.literal := by
    rw [Style.text_append_text, Style.text_text_append _ hembed, st.text_embed]
    cases st.text d <;> rfl
  have hpostgres : st.text (postgresBlock { target } g d) =
      (st.text d).map fun s => Wrapping.dollars.around (g.dollarBody s) := by
    have hbody : st.text (" " ++ ("BEGIN EXECUTE '" ++ .embed .quoted d ++ "'; EXCEPTION WHEN " ++
        g.postgresCondition ++ " THEN NULL; END") ++ " ") = (st.text d).map g.dollarBody := by
      have hblock := ((((st.fixed_text "BEGIN EXECUTE '").append hembed).append (st.fixed_text
        "'; EXCEPTION WHEN ")).append (st.fixed_text g.postgresCondition)).append (st.fixed_text
        " THEN NULL; END")
      simp only [Style.text_append_text, Style.text_text_append _ hblock,
        Style.text_text_append _ hembed, st.text_embed]
      cases st.text d <;> rfl
    rw [postgresBlock, if_neg Bool.false_ne_true, st.text_embed, hbody]
    cases st.text d <;> simp only [ok_map, error_map]
  dsimp only [block]
  rw [show Scope.family { target } = target.dialect.family from rfl]
  generalize target.dialect.family = f at h ⊢
  simp only [Family.catching, List.mem_cons, List.not_mem_nil, or_false] at h
  -- the families in the order of `Family.catching`; the last three have the block between tags
  rcases h with rfl | rfl | rfl | rfl | rfl | rfl | rfl
  · simp only [Style.text_append_text, Style.text_text_append _ hliteral, htext]
    cases st.text d <;> rfl
  · simp only [Style.text_append_text, Style.text_text_append _ hd']
    cases st.text d <;> rfl
  · simp only [Style.text_append_text, Style.text_append _ hliteral, st.text_text, htext]
    cases st.text d <;> rfl
  · simp only [Style.text_append_text, Style.text_append _ hliteral, st.text_text, htext]
    cases st.text d <;> rfl
  · exact hpostgres
  · exact hpostgres
  · exact hpostgres

end Guard

/-! ### Reading the definition back -/

/-- The definition that a block around it carries: the literal that is executed, which stands
between dollar tags on Postgres, or the text between the words of a `TRY` block. -/
def Family.carried? (f : Family) (sql : String) : Option String :=
  (match f with
  | .oracle | .db2 => Text.literalAfter? "EXECUTE IMMEDIATE ".toList sql.toList
  | .firebird => Text.literalAfter? "EXECUTE STATEMENT ".toList sql.toList
  | .sqlServer =>
    (Text.after? "BEGIN TRY ".toList sql.toList).bind (Text.beforeLast? " END TRY".toList)
  | .postgres | .yugabyteDb | .redshift =>
    ((Text.after? "DO ".toList sql.toList).bind Text.dollarQuoted?).bind
      (Text.literalAfter? "EXECUTE ".toList)
  | _ => none).map String.ofList

/-- The literal behind some words is found if the words do not occur before, and if no further quote
stands behind it. -/
lemma Text.literalAfter?_literal {before words : String} (hwords : words.toList ≠ [])
    (h : positionIn words.toList (before.toList ++ words.toList) = some before.toList.length)
    (s : String) {rest : String} (hrest : rest.toList.head? ≠ some '\'') :
    literalAfter? words.toList (before ++ words ++ (literal s ++ rest)).toList = some s.toList := by
  have hquote : "'".toList = ['\''] := by decide
  have hafter := after?_append hwords h
    ('\'' :: ((doubled '\'' s).toList ++ '\'' :: rest.toList))
  simp only [literal, String.toList_append, List.append_assoc, hquote, List.cons_append,
    List.nil_append, literalAfter?]
  rw [hafter, Option.bind_some, literal?_doubled s hrest]

lemma Text.head?_ne_quote {next : String} (h : next.toList.head? = some ';') (rest : String) :
    (next ++ rest).toList.head? ≠ some '\'' := by
  rw [String.toList_append, List.head?_append, h, Option.some_or]
  decide

namespace Guard

variable (g : Guard) (s : String)

lemma literalAfter?_oracle :
    Text.literalAfter? "EXECUTE IMMEDIATE ".toList (g.wrapped .oracle s).toList =
      some s.toList := by
  have hstart : "BEGIN EXECUTE IMMEDIATE " = "BEGIN " ++ "EXECUTE IMMEDIATE " := by
    decide
  have hwrapped : g.wrapped .oracle s = "BEGIN " ++ "EXECUTE IMMEDIATE " ++ (Text.literal s ++
      ("; EXCEPTION WHEN OTHERS THEN IF SQLCODE != " ++ (g.oracleCode ++
        " THEN RAISE; END IF; END;"))) :=
    (congrArg (· ++ Text.literal s ++ "; EXCEPTION WHEN OTHERS THEN IF SQLCODE != " ++
      g.oracleCode ++ " THEN RAISE; END IF; END;") hstart).trans
      (by simp only [String.append_assoc])
  rw [hwrapped]
  exact Text.literalAfter?_literal (by decide) (by decide +kernel) s
    (Text.head?_ne_quote (by decide) _)

lemma literalAfter?_db2 :
    Text.literalAfter? "EXECUTE IMMEDIATE ".toList (g.wrapped .db2 s).toList = some s.toList := by
  have hstart : "' BEGIN END; EXECUTE IMMEDIATE " = "' BEGIN END; " ++ "EXECUTE IMMEDIATE " := by
    decide
  -- the first `EXECUTE IMMEDIATE` is the one in front of the literal, as none is in the states
  have hfirst : Text.positionIn "EXECUTE IMMEDIATE ".toList
      (("BEGIN DECLARE CONTINUE HANDLER FOR SQLSTATE '" ++ g.db2State ++ "' BEGIN END; ").toList ++
        "EXECUTE IMMEDIATE ".toList) =
      some ("BEGIN DECLARE CONTINUE HANDLER FOR SQLSTATE '" ++ g.db2State ++
        "' BEGIN END; ").toList.length := by
    cases g <;> cbv
  have hwrapped : g.wrapped .db2 s =
      "BEGIN DECLARE CONTINUE HANDLER FOR SQLSTATE '" ++ g.db2State ++ "' BEGIN END; " ++
        "EXECUTE IMMEDIATE " ++ (Text.literal s ++ "; END") :=
    (congrArg (fun t => "BEGIN DECLARE CONTINUE HANDLER FOR SQLSTATE '" ++ g.db2State ++ t ++
      Text.literal s ++ "; END") hstart).trans
      (by simp only [String.append_assoc])
  rw [hwrapped]
  exact Text.literalAfter?_literal (by decide) hfirst s (by decide +kernel)

lemma literalAfter?_firebird :
    Text.literalAfter? "EXECUTE STATEMENT ".toList (g.wrapped .firebird s).toList =
      some s.toList := by
  have hstart : "EXECUTE BLOCK AS BEGIN EXECUTE STATEMENT " =
      "EXECUTE BLOCK AS BEGIN " ++ "EXECUTE STATEMENT " := by
    decide
  have hwrapped : g.wrapped .firebird s =
      "EXECUTE BLOCK AS BEGIN " ++ "EXECUTE STATEMENT " ++ (Text.literal s ++
        "; WHEN SQLCODE -607 DO BEGIN END END") :=
    (congrArg (· ++ Text.literal s ++ "; WHEN SQLCODE -607 DO BEGIN END END") hstart).trans
      (by simp only [String.append_assoc])
  rw [hwrapped]
  exact Text.literalAfter?_literal (by decide) (by decide +kernel) s (by decide +kernel)

/-- A `TRY` block ends with the last of its words. -/
lemma tryBody_sqlServer :
    (Text.after? "BEGIN TRY ".toList (g.wrapped .sqlServer s).toList).bind
      (Text.beforeLast? " END TRY".toList) = some s.toList := by
  have hend : " END TRY BEGIN CATCH IF ERROR_NUMBER() != " =
      " END TRY" ++ " BEGIN CATCH IF ERROR_NUMBER() != " := by
    decide
  have hwrapped : g.wrapped .sqlServer s = "BEGIN TRY " ++ (s ++ (" END TRY" ++
      (" BEGIN CATCH IF ERROR_NUMBER() != " ++ g.sqlServerCode ++ " THROW; END CATCH"))) :=
    (congrArg (fun t => "BEGIN TRY " ++ s ++ t ++ g.sqlServerCode ++ " THROW; END CATCH")
      hend).trans (by simp only [String.append_assoc])
  -- from the end, since the statement itself may hold the closing words
  have hlast : Text.positionIn " END TRY".toList.reverse
      ((" BEGIN CATCH IF ERROR_NUMBER() != " ++ g.sqlServerCode ++
        " THROW; END CATCH").toList.reverse ++ " END TRY".toList.reverse) =
      some (" BEGIN CATCH IF ERROR_NUMBER() != " ++ g.sqlServerCode ++
        " THROW; END CATCH").toList.length := by
    cases g <;> cbv
  have hafter (cs : List Char) : Text.after? "BEGIN TRY ".toList ("BEGIN TRY ".toList ++ cs) =
      some cs := by
    have hfirst : Text.positionIn "BEGIN TRY ".toList ([] ++ "BEGIN TRY ".toList) = some 0 := by
      decide
    exact Text.after?_append (by decide) hfirst cs
  rw [hwrapped, String.toList_append, hafter, Option.bind_some, String.toList_append,
    String.toList_append]
  exact Text.beforeLast?_append (by decide) hlast s.toList

/-- A block of Postgres ends with a blank, so the dollar tag behind it is found where it begins. -/
lemma dollarQuoted?_postgres :
    (Text.after? "DO ".toList (Wrapping.dollars.around (g.dollarBody s)).toList).bind
      Text.dollarQuoted? = some (g.dollarBody s).toList := by
  have hfirst : Text.positionIn "DO ".toList ([] ++ "DO ".toList) = some 0 := by
    decide
  have hblank : (g.dollarBody s).toList.getLast? = some ' ' := by
    rw [dollarBody, String.toList_append, List.getLast?_append,
      show " ".toList.getLast? = some ' ' by decide, Option.some_or]
  have hafter (cs : List Char) : Text.after? "DO ".toList ("DO ".toList ++ cs) = some cs :=
    Text.after?_append (by decide) hfirst cs
  rw [Wrapping.around, String.append_assoc, String.append_assoc, String.toList_append, hafter,
    Option.bind_some, String.toList_append, String.toList_append]
  exact Text.dollarQuoted?_dollarTag hblank

lemma literalAfter?_postgres :
    Text.literalAfter? "EXECUTE ".toList (g.dollarBody s).toList = some s.toList := by
  have hstart : " " ++ "BEGIN EXECUTE '" = " BEGIN " ++ "EXECUTE " ++ "'" := by
    decide
  have hnext : "'; EXCEPTION WHEN " = "'" ++ "; EXCEPTION WHEN " := by
    decide
  have hbody : g.dollarBody s = " BEGIN " ++ "EXECUTE " ++ (Text.literal s ++
      ("; EXCEPTION WHEN " ++ (g.postgresCondition ++ (" THEN NULL; END" ++ " ")))) := by
    have hleft : g.dollarBody s = " " ++ "BEGIN EXECUTE '" ++ (Text.doubled '\'' s ++
        ("'; EXCEPTION WHEN " ++ (g.postgresCondition ++ (" THEN NULL; END" ++ " ")))) := by
      simp only [dollarBody, String.append_assoc]
    refine hleft.trans ((congrArg₂ (fun t t' => t ++ (Text.doubled '\'' s ++ (t' ++
      (g.postgresCondition ++ (" THEN NULL; END" ++ " "))))) hstart hnext).trans ?_)
    simp only [Text.literal, String.append_assoc]
  rw [hbody]
  exact Text.literalAfter?_literal (by decide) (by decide +kernel) s
    (Text.head?_ne_quote (by decide) _)

/-- The definition is read back from the text around it, whatever stands in it. -/
lemma carried?_wrapped {f : Family} (h : f ∈ Family.catching) :
    f.carried? (g.wrapped f s) = some s := by
  have hread {read? : Option (List Char)} (h : read? = some s.toList) :
      read?.map String.ofList = some s := by
    rw [h, Option.map_some, String.ofList_toList]
  have hpostgres : ((Text.after? "DO ".toList (Wrapping.dollars.around
      (g.dollarBody s)).toList).bind Text.dollarQuoted?).bind
      (Text.literalAfter? "EXECUTE ".toList) = some s.toList := by
    rw [g.dollarQuoted?_postgres s, Option.bind_some, g.literalAfter?_postgres s]
  simp only [Family.catching, List.mem_cons, List.not_mem_nil, or_false] at h
  rcases h with rfl | rfl | rfl | rfl | rfl | rfl | rfl
  · exact hread (g.literalAfter?_oracle s)
  · exact hread (g.tryBody_sqlServer s)
  · exact hread (g.literalAfter?_db2 s)
  · exact hread (g.literalAfter?_firebird s)
  · exact hread hpostgres
  · exact hread hpostgres
  · exact hread hpostgres

end Guard

/-! ### Rendering -/

/-- Definitions bind nothing and end no statement. -/
lemma Draft.ofStatement_written (target : Target) {stmt : Statement}
    (h : stmt.isDefinition = true) : (ofStatement target stmt).Follows .written := by
  -- definitions are written out whole, those without parts already at rank 1
  cases stmt with
  | createIndex c =>
    rw [ofStatement_eq target (Nat.add_comm 1 _)]
    exact (Writers.level_settled _).createIndex _ c
  | dropIndex d =>
    rw [ofStatement_eq target rfl]
    exact Writers.follows_dropIndex _ d
  | truncate t =>
    rw [ofStatement_eq target rfl]
    exact Writers.follows_truncate _ t
  | createSequence c =>
    rw [ofStatement_eq target rfl]
    exact Writers.follows_createSequence _ c
  | dropSequence d =>
    rw [ofStatement_eq target rfl]
    exact Writers.follows_dropSequence _ d
  | createTable c =>
    rw [ofStatement_eq target (Nat.add_comm 1 _)]
    exact (Writers.level_settled _).createTable _ c
  | dropTable d =>
    rw [ofStatement_eq target rfl]
    exact Writers.follows_dropTable _ d
  | _ => cases h

namespace Renderer

variable (r : Renderer) {stmt : Statement}

/-- A definition is rendered as its text. -/
lemma render_definition (h : stmt.isDefinition = true) :
    r.render stmt = (r.style.text (Draft.ofStatement r.target stmt)).map fun t => ⟨t, []⟩ := by
  have hexecutable : stmt.isExecutable = true := by
    cases stmt <;> first | rfl | cases h
  exact r.render_of_closed hexecutable
    ((Draft.ofStatement_written r.target h).allClosed (by decide))

/-- **Guarded definitions.** Where an engine lacks the existence check that a definition asks for,
the definition is rendered if the engine has a block that passes over an error and the definition
without the check is rendered. The text carries the text of the definition without the check. -/
theorem render_guarded {g : Guard} (hg : stmt.guard? = some g)
    (hlacks : g.check.contains r.dialect = false) :
    ((∃ out, r.render stmt = .ok out) ↔
        r.dialect.family ∈ Family.catching ∧ ∃ plain, r.render stmt.unchecked = .ok plain) ∧
      ∀ out, r.render stmt = .ok out → ∃ plain, r.render stmt.unchecked = .ok plain ∧
        r.dialect.family.carried? out.sql = some plain.sql ∧
        out.parameters = plain.parameters := by
  obtain ⟨hdefinition, hplain⟩ := Statement.isDefinition_of_guard? hg
  have hwritten := Draft.ofStatement_written r.target hplain
  rw [r.render_definition hdefinition, r.render_definition hplain]
  obtain ⟨e, hfail, hfail'⟩ | hblock := Draft.ofStatement_guarded r.target hg hlacks
  · simp [hfail, hfail']
  rw [hblock]
  by_cases hfamily : r.dialect.family ∈ Family.catching
  · rw [g.text_block hwritten hfamily]
    cases r.style.text (Draft.ofStatement r.target stmt.unchecked) with
    | error e => simp
    | ok t =>
      simp [hfamily, g.carried?_wrapped t hfamily, show r.target.dialect = r.dialect from rfl]
  · rw [g.block_of_not_catching (s := { target := r.target }) _ hfamily, Scope.refuse]
    simp [hfamily]

/-- On Postgres 9.4 a sequence is created if it does not exist, although quotes and dollar signs are
in its name. -/
theorem render_guarded_sequence :
    let r : Renderer := { dialect := .postgres9_4 }
    let stmt : Statement :=
      .createSequence ⟨.ofTexts ["it's $$"], some 3, none, none, none, false, none, true⟩
    stmt.guard? = some .createSequence ∧
      Guard.createSequence.check.contains r.dialect = false ∧
      ∃ out, r.render stmt = .ok out ∧ out.parameters = [] ∧
        r.dialect.family.carried? out.sql = some "CREATE SEQUENCE \"it's $$\" START WITH 3" := by
  intro r stmt
  have hasked : stmt.guard? = some .createSequence := rfl
  have hguarded := r.render_guarded hasked (by decide)
  have htext : (r.render stmt.unchecked).map (fun plain => (plain.sql, plain.parameters.length)) =
      .ok ("CREATE SEQUENCE \"it's $$\" START WITH 3", 0) := by
    decide
  cases hplain : r.render stmt.unchecked with
  | error e =>
    rw [hplain] at htext
    cases htext
  | ok plain =>
    obtain ⟨sql, parameters⟩ := plain
    rw [hplain, ok_map] at htext
    injection htext with hpair
    obtain ⟨rfl, hnone⟩ := Prod.mk.inj hpair
    obtain ⟨out, hout⟩ := hguarded.1.mpr ⟨by decide, _, hplain⟩
    obtain ⟨plain, hplain', hcarried, hparameters⟩ := hguarded.2 out hout
    rw [hplain] at hplain'
    cases hplain'
    exact ⟨hasked, by decide, out, hout, hparameters.trans (List.eq_nil_of_length_eq_zero hnone),
      hcarried⟩

end Renderer

end Polysql

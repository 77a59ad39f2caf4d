import Polysql.Draft.Block
import Polysql.Proofs.Draft.Statement
import Polysql.Proofs.Formatter.Change
import Polysql.Proofs.Text.Occurrence
/-!
Definitions and blocks on a formatter. Values are written out in them. A definition in a guard and
the block of Postgres are texts of their own; the statements of a block stand one block deeper.
-/

namespace Polysql

namespace Formatters

/-! ### Guards -/

/-- A text as a string literal. -/
def quotedLiteral (sql : String) : String :=
  "'" ++ Text.doubled '\'' sql ++ "'"

/-- A block on Postgres. It stands between dollar tags, unless it is inside of a block already. -/
def postgresGuard (g : Guard) (inBlock : Bool) (body : Formatting Unit) : Formatting Unit :=
  .apart body fun sql =>
    let block := "BEGIN EXECUTE '" ++ Text.doubled '\'' sql ++ "'; EXCEPTION WHEN " ++
      g.postgresCondition ++ " THEN NULL; END"
    let tag := Text.dollarTag block
    if inBlock then block else "DO " ++ tag ++ (" " ++ block ++ " ") ++ tag

/-- The block around a definition that passes over the error. -/
def guardBlock (g : Guard) (body : Formatting Unit) : Formatting Unit := .asking fun s =>
  match s.family with
  | .oracle =>
    .apart body fun sql =>
      "BEGIN EXECUTE IMMEDIATE " ++ quotedLiteral sql ++
        "; EXCEPTION WHEN OTHERS THEN IF SQLCODE != " ++ g.oracleCode ++
        " THEN RAISE; END IF; END;"
  | .sqlServer =>
    .apart body fun sql =>
      "BEGIN TRY " ++ sql ++ " END TRY BEGIN CATCH IF ERROR_NUMBER() != " ++ g.sqlServerCode ++
        " THROW; END CATCH"
  | .db2 =>
    .apart body fun sql =>
      "BEGIN DECLARE CONTINUE HANDLER FOR SQLSTATE '" ++ g.db2State ++
        "' BEGIN END; EXECUTE IMMEDIATE " ++ quotedLiteral sql ++ "; END"
  | .firebird =>
    .apart body fun sql =>
      (if s.inBlock then "BEGIN" else "EXECUTE BLOCK AS BEGIN") ++ " EXECUTE STATEMENT " ++
        quotedLiteral sql ++ "; WHEN SQLCODE -607 DO BEGIN END END"
  | .postgres | .yugabyteDb | .redshift => postgresGuard g s.inBlock body
  | _ => .refuse g.words

/-- A definition that may ask whether its object exists. -/
def guarded (g : Guard) (asked : Bool) (definition : Bool → Formatting Unit) :
    Formatting Unit := .asking fun s =>
  if asked && !s.has g.check then guardBlock g (definition false) else definition asked

section

variable {s : Scope} {body : Formatting Unit} {d : Draft}

lemma embeds_quotedLiteral (d : Draft) :
    Draft.Embeds ("'" ++ .embed .quoted d ++ "'") d quotedLiteral :=
  ((Draft.embeds_quoted d).text_append "'").append_text "'"

/-- The tag around a text is that of the text without what surrounds it in the tags. -/
lemma dollars_around (before after : String) (hbefore : '$' ∉ before.toList)
    (hafter : '$' ∉ after.toList) (t : String) :
    Wrapping.dollars.around (before ++ t ++ after) =
      "DO " ++ Text.dollarTag t ++ (before ++ t ++ after) ++ Text.dollarTag t := by
  rw [Wrapping.around, Text.dollarTag_between hbefore hafter]

lemma renders_postgresGuard (g : Guard) (h : body.Writes s.inText d) :
    (postgresGuard g s.inBlock body).Renders s (g.postgresBlock s d) := by
  have hblock := ((((Draft.embeds_quoted d).text_append "BEGIN EXECUTE '").append_text
    "'; EXCEPTION WHEN ").append_text g.postgresCondition).append_text " THEN NULL; END"
  rw [Guard.postgresBlock]
  cases s.inBlock with
  | true => exact h.apart hblock
  | false =>
    have hdollars := ((hblock.text_append " ").append_text " ").embed .dollars
    simp only [dollars_around " " " " (by decide) (by decide)] at hdollars
    exact h.apart hdollars

/-- A guard is a text of its own in a block that depends on the engine. The definition in it binds
nothing, so that SQL Server, which has it in the block itself, has it like the others. -/
lemma renders_guardBlock (g : Guard) {definition : Scope → Draft}
    (h : body.Writes s.inText (definition s.inText))
    (hclosed : (definition s.inText).Follows .written) :
    (guardBlock g body).Renders s (g.block s definition) := by
  rw [guardBlock, Guard.block]
  have hliteral := embeds_quotedLiteral (definition s.inText)
  have hbody : Draft.Embeds ("BEGIN TRY " ++ definition s.inText) (definition s.inText)
      ("BEGIN TRY " ++ ·) :=
    Draft.embeds_of_closed (hclosed.allClosed (by decide)) "BEGIN TRY " (by decide)
  refine .asking ?_
  -- four families hold the definition in words of their own, three between dollar tags
  cases s.family with
  | oracle =>
    exact h.apart ((((hliteral.text_append _).append_text _).append_text _).append_text _)
  | sqlServer => exact h.apart (((hbody.append_text _).append_text _).append_text _)
  | db2 =>
    have hhandler := (((hliteral.text_append "' BEGIN END; EXECUTE IMMEDIATE ").text_append
      g.db2State).text_append "BEGIN DECLARE CONTINUE HANDLER FOR SQLSTATE '").append_text "; END"
    exact h.apart (by simpa only [Draft.append_assoc, String.append_assoc] using hhandler)
  | firebird =>
    have hexecute := ((hliteral.text_append " EXECUTE STATEMENT ").text_append
      (if s.inBlock then "BEGIN" else "EXECUTE BLOCK AS BEGIN")).append_text
        "; WHEN SQLCODE -607 DO BEGIN END END"
    exact h.apart (by simpa only [Draft.append_assoc, String.append_assoc] using hexecute)
  | postgres | yugabyteDb | redshift => exact renders_postgresGuard g h
  | _ => exact Formatting.renders_refuse _

/-- A definition is rendered as it is drafted, with or without a guard. -/
lemma renders_guarded (g : Guard) (asked : Bool) {render : Bool → Formatting Unit}
    {definition : Scope → Bool → Draft}
    (h : ∀ (s : Scope) (asked : Bool), (render asked).Renders s (definition s asked))
    (hclosed : (definition s.inText false).Follows .written) :
    (guarded g asked render).Renders s (g.draft s asked definition) := by
  rw [guarded, Guard.draft]
  refine .asking ?_
  split
  · exact renders_guardBlock g (h s.inText false).writes hclosed
  · exact h s asked

end

/-! ### Definitions -/

section

variable (m : Formatters)

/-- A column of a new table. -/
def columnDefinition (c : ColumnDefinition) : Formatting Unit :=
  .lastPart c.name ++ " " ++ .emit (fun s => .ofText (s.dialect.typeName false c.type)) ++
    Formatting.ofOption (fun e => " DEFAULT " ++ m.expr e) c.default? ++
    Formatting.onlyIf c.notNull " NOT NULL"

/-- The primary key of a new table, if it has one. -/
def primaryKey (columns : List Name) : List (Formatting Unit) :=
  if columns.isEmpty then []
  else ["PRIMARY KEY (" ++ Formatting.lastParts columns ++ ")"]

/-- `CREATE TABLE`. -/
def createTable (c : CreateTable) : Formatting Unit :=
  guarded .createTable c.ifNotExists fun asked =>
    .within .writtenOut
      ("CREATE TABLE " ++ Formatting.onlyIf asked "IF NOT EXISTS " ++ .qualified c.name ++ " (" ++
        .commas (c.columns.map m.columnDefinition ++ primaryKey c.primaryKey) ++ ")")

/-- `DROP TABLE` with the words that drop what depends on the table. -/
def dropTableBy (d : DropTable) (words : String) : Formatting Unit :=
  guarded .dropTable d.ifExists fun asked =>
    "DROP TABLE " ++ Formatting.onlyIf asked "IF EXISTS " ++ .qualified d.name ++ words

/-- `DROP TABLE`. -/
def dropTable (d : DropTable) : Formatting Unit := .asking fun s =>
  if !d.cascade then dropTableBy d ""
  else if s.family = .oracle then dropTableBy d " CASCADE CONSTRAINTS"
  else if s.has Feature.dropTableCascade then dropTableBy d " CASCADE"
  else .refuse "DROP TABLE .. CASCADE"

/-- The removal of all rows of a table. -/
def truncate (t : Truncate) : Formatting Unit :=
  .emit fun s => Writers.truncate s t

/-- `CREATE INDEX` on an engine that can index the rows it asks for. -/
def createIndexOn (c : CreateIndex) : Formatting Unit :=
  guarded .createIndex c.ifNotExists fun asked =>
    .within .writtenOut
      ("CREATE " ++ Formatting.onlyIf c.unique "UNIQUE " ++ "INDEX " ++
        Formatting.onlyIf asked "IF NOT EXISTS " ++ .lastPart c.name ++ " ON " ++
        .qualified c.table ++ " (" ++
        .commas (c.columns.map fun (n, d?) => Formatting.lastPart n ++ direction d?) ++ ")" ++
        Formatting.ofOption (fun f => " WHERE " ++ .within .unqualified (m.condition f)) c.filter?)

/-- `CREATE INDEX`. -/
def createIndex (c : CreateIndex) : Formatting Unit := .asking fun s =>
  if c.filter?.isSome && !s.has Feature.partialIndex then .refuse "partial indexes"
  else m.createIndexOn c

/-- `DROP INDEX`, with the table where the engine asks for it. -/
def dropIndexOn (d : DropIndex) (table? : Option Name) : Formatting Unit :=
  guarded .dropIndex d.ifExists fun asked =>
    "DROP INDEX " ++ Formatting.onlyIf asked "IF EXISTS " ++ .qualified d.name ++
      Formatting.ofOption (fun t => " ON " ++ .qualified t) table?

/-- `DROP INDEX`. -/
def dropIndex (d : DropIndex) : Formatting Unit := .asking fun s =>
  if !s.has Feature.dropIndexOn then
    dropIndexOn d none
  else if d.table?.isNone then
    .fail (.invalidStatement
      ("DROP INDEX on " ++ s.dialect.name ++ " needs the indexed table"))
  else
    dropIndexOn d d.table?

/-- A number of a sequence, if it is given. -/
def sequenceNumber (words : String) (n? : Option Int64) : Formatting Unit :=
  .emit fun _ => Writers.sequenceNumber words n?

/-- `CREATE SEQUENCE`. -/
def createSequence (c : CreateSequence) : Formatting Unit := .asking fun s =>
  if !s.has Feature.sequences then
    .refuse "sequences"
  else
    guarded .createSequence c.ifNotExists fun asked =>
      "CREATE SEQUENCE " ++ Formatting.onlyIf asked "IF NOT EXISTS " ++ .qualified c.name ++
        sequenceNumber " START WITH " c.start? ++
        sequenceNumber " INCREMENT BY " c.increment? ++
        sequenceNumber " MINVALUE " c.least? ++
        sequenceNumber " MAXVALUE " c.greatest? ++
        Formatting.onlyIf c.cycle " CYCLE" ++
        Formatting.ofOption (fun n => " CACHE " ++ .emit fun _ => .number n.toNat) c.cache?

/-- `DROP SEQUENCE`. -/
def dropSequence (d : DropSequence) : Formatting Unit := .asking fun s =>
  if !s.has Feature.sequences then
    .refuse "sequences"
  else
    guarded .dropSequence d.ifExists fun asked =>
      "DROP SEQUENCE " ++ Formatting.onlyIf asked "IF EXISTS " ++ .qualified d.name ++
        Formatting.onlyIf (s.family == .derby) " RESTRICT"

end

section

variable {s : Scope}

@[grind ←]
lemma renders_sequenceNumber (words : String) (n? : Option Int64) :
    (sequenceNumber words n?).Renders s (Writers.sequenceNumber words n?) :=
  Formatting.renders_emit rfl

lemma renders_dropTable (d : DropTable) : (dropTable d).Renders s (Writers.dropTable s d) := by
  have hby (words : String) : (dropTableBy d words).Renders s (Writers.dropTableBy s d words) := by
    refine renders_guarded .dropTable d.ifExists (fun s asked => ?_) (by simp [Draft.ifExists])
    rw [Draft.ifExists]
    grind
  rw [dropTable, Writers.dropTable]
  grind

lemma renders_truncate (t : Truncate) : (truncate t).Renders s (Writers.truncate s t) :=
  Formatting.renders_emit rfl

lemma renders_dropIndex (d : DropIndex) : (dropIndex d).Renders s (Writers.dropIndex s d) := by
  have hon (table? : Option Name) :
      (dropIndexOn d table?).Renders s (Writers.dropIndexOn s d table?) := by
    refine renders_guarded .dropIndex d.ifExists (fun s asked => ?_) (by simp [Draft.ifExists])
    rw [Draft.ifExists]
    grind
  rw [dropIndex, Writers.dropIndex]
  grind

lemma renders_createSequence (c : CreateSequence) :
    (createSequence c).Renders s (Writers.createSequence s c) := by
  rw [createSequence, Writers.createSequence]
  refine .asking ?_
  split
  · exact Formatting.renders_refuse _
  · refine renders_guarded .createSequence c.ifNotExists (fun s asked => ?_)
      (by simp [Draft.ifNotExists, Writers.follows_sequenceNumber])
    rw [Draft.ifNotExists]
    grind

lemma renders_dropSequence (d : DropSequence) :
    (dropSequence d).Renders s (Writers.dropSequence s d) := by
  rw [dropSequence, Writers.dropSequence]
  refine .asking ?_
  split
  · exact Formatting.renders_refuse _
  · refine renders_guarded .dropSequence d.ifExists (fun s asked => ?_)
      (by simp [Draft.ifExists])
    rw [Draft.ifExists]
    grind

end

namespace Follows

variable {m : Formatters} {w : Writers} (h : m.Follows w) (s : Scope)
include h

@[grind ←]
lemma columnDefinition (c : ColumnDefinition) :
    (m.columnDefinition c).Renders s (w.columnDefinition s c) := by
  rw [Formatters.columnDefinition, Writers.columnDefinition]
  grind

lemma createTable (c : CreateTable) : (m.createTable c).Renders s (w.createTable s c) := by
  have hkey (s : Scope) : List.Forall₂ (fun r d => r.Renders s d)
      (Formatters.primaryKey c.primaryKey) (Writers.primaryKey c.primaryKey) := by
    rw [Formatters.primaryKey, Writers.primaryKey]
    split
    · exact .nil
    · exact .cons (by grind) .nil
  have hparts (s : Scope) := Formatting.renders_separated ", " (List.rel_append
    (Formatting.forall₂_renders_map (h.columnDefinition s) c.columns) (hkey s))
  have hclosed := h.settled.createTable s.inText { c with ifNotExists := false }
  refine renders_guarded .createTable c.ifNotExists (fun s asked => .writtenOut ?_) hclosed
  rw [Draft.ifNotExists, Formatting.commas, Draft.commas]
  grind

lemma createIndex (c : CreateIndex) : (m.createIndex c).Renders s (w.createIndex s c) := by
  have hclosed := h.settled.createIndex s.inText { c with ifNotExists := false }
  rw [Formatters.createIndex, Writers.createIndex]
  refine .asking ?_
  split
  · exact Formatting.renders_refuse _
  · next hfilter =>
    have hnot : ¬({ c with ifNotExists := false : CreateIndex }.filter?.isSome &&
      !s.inText.has Feature.partialIndex) = true := hfilter
    rw [Writers.createIndex, if_neg hnot] at hclosed
    refine renders_guarded .createIndex c.ifNotExists (fun s asked => .writtenOut ?_) hclosed
    rw [Draft.ifNotExists]
    grind

end Follows

/-! ### Blocks -/

section

variable (m : Formatters)

/-- A definition that is run as dynamic SQL. -/
def dynamic (stmt : Statement) : Formatting Unit := .asking fun s =>
  .apart (m.statement stmt) fun sql =>
    (if s.family = .firebird then "EXECUTE STATEMENT '" else "EXECUTE IMMEDIATE '") ++
      Text.doubled '\'' sql ++ "'"

/-- A statement of a block. -/
def member (stmt : Statement) : Formatting Unit := .asking fun s =>
  if stmt.isDefinition && s.has Feature.dynamicDdl && !stmt.isGuarded s.dialect then
    m.dynamic stmt
  else
    m.statement stmt

/-- The statements of a block, each with its end. -/
def members (b : Block) : Formatting Unit :=
  .within .insideBlock
    (.concat ((b.statements.filter Statement.isExecutable).map fun stmt =>
      m.member stmt ++ .emit fun _ => .ofPiece .terminator))

/-- The block as a procedure that is created, called and dropped. -/
def procedure (b : Block) : Formatting Unit :=
  let name := Formatting.qualified (Name.ofText b.name)
  "CREATE PROCEDURE " ++ name ++ "() BEGIN " ++ m.members b ++ "END; CALL " ++ name ++
    "(); DROP PROCEDURE " ++ name ++ ";"

/-- A block in the procedural language of the engine. -/
def outerBlock (b : Block) : Formatting Unit := .asking fun s =>
  match s.family with
  | .postgres | .yugabyteDb =>
    .apart (m.members b) fun sql =>
      let tag := Text.dollarTag sql
      "DO " ++ tag ++ (" BEGIN " ++ sql ++ "END ") ++ tag
  | .oracle => "BEGIN " ++ m.members b ++ "END;"
  | .db2 | .sqlServer => "BEGIN " ++ m.members b ++ "END"
  | .firebird => "EXECUTE BLOCK AS BEGIN " ++ m.members b ++ "END"
  | .mariaDb => "BEGIN NOT ATOMIC " ++ m.members b ++ "END"
  | .mySql => m.procedure b
  | _ => .refuse "procedural blocks"

/-- A block. -/
def block (b : Block) : Formatting Unit :=
  .within .writtenOut (.asking fun s =>
    if s.inBlock then "BEGIN " ++ m.members b ++ "END" else m.outerBlock b)

/-- A statement, by means of formatters for its parts. -/
def formatStatement : Statement → Formatting Unit
  | .select q => m.select q
  | .insert i => m.insert i
  | .update u => m.update u
  | .delete d => m.delete d
  | .createIndex c => m.createIndex c
  | .dropIndex d => dropIndex d
  | .truncate t => truncate t
  | .createSequence c => createSequence c
  | .dropSequence d => dropSequence d
  | .createTable c => m.createTable c
  | .dropTable d => dropTable d
  | .block b => m.block b

end

namespace Follows

variable {m : Formatters} {w : Writers} (h : m.Follows w) (s : Scope)
include h

lemma dynamic (stmt : Statement) : (m.dynamic stmt).Renders s (w.dynamic s stmt) := by
  have hquoted := Draft.embeds_quoted (w.statement s.inText stmt)
  refine .asking ((h.statement s.inText stmt).apart ?_)
  exact (hquoted.text_append _).append_text "'"

lemma member (stmt : Statement) : (m.member stmt).Writes s (w.member s stmt) := by
  rw [Formatters.member, Writers.member]
  refine .asking ?_
  split
  · exact (h.dynamic s stmt).writes
  · exact h.statement s stmt

lemma members (b : Block) : (m.members b).Writes s (w.members s b) := by
  have hend (s : Scope) : Formatting.Renders (.emit fun _ => .ofPiece .terminator) s
      (.ofPiece .terminator) :=
    Formatting.renders_emit rfl
  exact .insideBlock (.concat_map
    (fun stmt => (h.member s.insideBlock stmt).append (hend _).writes) _)

/-- Fixed text around the statements of a block. -/
lemma between_members (b : Block) (before after : String) :
    Formatting.Writes (before ++ m.members b ++ after) s (before ++ w.members s b ++ after) :=
  ((Formatting.renders_text before).writes.append (h.members s b)).append
    (Formatting.renders_text after).writes

lemma procedure (b : Block) : (m.procedure b).Writes s (w.procedure s b) := by
  have hname := (Formatting.renders_qualified (s := s) (Name.ofText b.name)).writes
  have htext (t : String) := (Formatting.renders_text (s := s) t).writes
  have hhead := ((htext "CREATE PROCEDURE ").append hname).append (htext "() BEGIN ")
  exact (((((hhead.append (h.members s b)).append (htext _)).append hname).append
    (htext _)).append hname).append (htext ";")

lemma outerBlock (b : Block) : (m.outerBlock b).Writes s (w.outerBlock s b) := by
  have hbetween := h.between_members s b
  rw [Formatters.outerBlock, Writers.outerBlock]
  refine .asking ?_
  cases s.family with
  | postgres | yugabyteDb =>
    have hclosed := (h.settled.members (s := s.inText) rfl b).allClosed (by decide)
    have hdollars :=
      ((Draft.embeds_of_closed hclosed " BEGIN " (by decide)).append_text "END ").embed .dollars
    simp only [dollars_around " BEGIN " "END " (by decide) (by decide)] at hdollars
    exact ((h.members s.inText b).apart hdollars).writes
  | oracle | db2 | sqlServer | firebird | mariaDb => exact hbetween _ _
  | mySql => exact h.procedure s b
  | _ => exact (Formatting.renders_refuse _).writes

lemma block (b : Block) : (m.block b).Writes s (w.block s b) := by
  rw [Formatters.block, Writers.block]
  refine .writtenOut (.asking ?_)
  change Formatting.Writes (if s.inBlock then _ else _) _ _
  split
  · exact h.between_members s.writtenOut b "BEGIN " "END"
  · exact h.outerBlock s.writtenOut b

/-- A statement is rendered as it is drafted. -/
lemma formatStatement (stmt : Statement) :
    (m.formatStatement stmt).Writes s (w.draftStatement s stmt) := by
  cases stmt with
  | select q => exact (h.select s q).writes
  | insert i => exact (h.insert s i).writes
  | update u => exact h.update s u
  | delete d => exact h.delete s d
  | createIndex c => exact (h.createIndex s c).writes
  | dropIndex d => exact (renders_dropIndex d).writes
  | truncate t => exact (renders_truncate t).writes
  | createSequence c => exact (renders_createSequence c).writes
  | dropSequence d => exact (renders_dropSequence d).writes
  | createTable c => exact (h.createTable s c).writes
  | dropTable d => exact (renders_dropTable d).writes
  | block b => exact h.block s b

end Follows

end Formatters

end Polysql

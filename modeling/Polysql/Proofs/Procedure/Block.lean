import Polysql.Proofs.Place.Statement
import Polysql.Proofs.Procedure.Guard
/-!
Blocks of statements. A statement of a block is written as it is on its own with literals for its
values, whatever blocks it stands in; a block inside of another one is written between `BEGIN` and
`END`, and a definition may be run as dynamic SQL. So the text of a block is made of segments, one
for each statement that does something (`Statement.segments`, `Renderer.render_block`).
-/

namespace Polysql

/-! ### Segments -/

/-- The families with a procedural language for blocks. -/
def Family.procedural : List Family :=
  [.postgres, .yugabyteDb, .oracle, .db2, .sqlServer, .firebird, .mariaDb, .mySql]

/-- The families whose blocks run definitions as dynamic SQL. -/
def Family.dynamic : List Family :=
  [.oracle, .db2, .firebird]

/-- A text that is run as dynamic SQL. -/
def Family.executed (f : Family) (s : String) : String :=
  (if f = .firebird then "EXECUTE STATEMENT " else "EXECUTE IMMEDIATE ") ++ Text.literal s

/-- The text of an outermost block with a name around the text of its statements. -/
def Family.procedure (f : Family) (name body : String) : String :=
  match f with
  | .postgres | .yugabyteDb => Wrapping.dollars.around (" BEGIN " ++ body ++ "END ")
  | .oracle => "BEGIN " ++ body ++ "END;"
  | .firebird => "EXECUTE BLOCK AS BEGIN " ++ body ++ "END"
  | .mariaDb => "BEGIN NOT ATOMIC " ++ body ++ "END"
  | .mySql =>
    "CREATE PROCEDURE " ++ name ++ "() BEGIN " ++ body ++ "END; CALL " ++ name ++
      "(); DROP PROCEDURE " ++ name ++ ";"
  | _ => "BEGIN " ++ body ++ "END"

section

variable (f : Family) (text : Statement → Except Error String)

mutual

/-- A statement of a block, given the texts of statements on their own. -/
def Statement.segment : Statement → Except Error String
  | .block ⟨_, ss⟩ => (segments ss).map fun body => "BEGIN " ++ body ++ "END"
  | stmt =>
    (text stmt).map fun s => if stmt.isDefinition ∧ f ∈ Family.dynamic then f.executed s else s

/-- The statements of a block that do something, each with its end. -/
def Statement.segments : List Statement → Except Error String
  | [] => .ok ""
  | stmt :: ss =>
    if stmt.isExecutable then
      (segment stmt).bind fun s => (segments ss).map (terminated s ++ ·)
    else
      segments ss

end

variable {f text} in
lemma Statement.segment_of_not_block {stmt : Statement} (h : ∀ b, stmt ≠ .block b) :
    stmt.segment f text =
      (text stmt).map fun s =>
        if stmt.isDefinition ∧ f ∈ Family.dynamic then f.executed s else s := by
  rw [segment]
  exact fun name ss heq => h _ heq

end

mutual

/-- No definition in a statement needs a block for its existence check. -/
def Statement.isUnguarded (d : Dialect) : Statement → Bool
  | .block ⟨_, ss⟩ => allUnguarded d ss
  | stmt => !stmt.isGuarded d

/-- No definition in several statements needs a block for its existence check. -/
def Statement.allUnguarded (d : Dialect) : List Statement → Bool
  | [] => true
  | stmt :: ss => stmt.isUnguarded d && allUnguarded d ss

end

lemma Statement.allUnguarded_iff {d : Dialect} {ss : List Statement} :
    allUnguarded d ss = true ↔ ∀ stmt ∈ ss, stmt.isUnguarded d = true := by
  induction ss with
  | nil => simp [allUnguarded]
  | cons stmt ss ih => simp [allUnguarded, ih]

lemma Statement.isUnguarded_block {d : Dialect} {b : Block} :
    (block b).isUnguarded d = true ↔ ∀ stmt ∈ b.statements, stmt.isUnguarded d = true := by
  cases b
  exact allUnguarded_iff

lemma Statement.isUnguarded_of_not_block {d : Dialect} {stmt : Statement}
    (h : ∀ b, stmt ≠ .block b) : stmt.isUnguarded d = !stmt.isGuarded d := by
  rw [isUnguarded]
  exact fun name ss heq => h _ heq

namespace Renderer

/-- A statement on its own, with literals for its values. -/
def inlined (r : Renderer) (stmt : Statement) : Except Error String :=
  ((r.spelling .inlined).render stmt).map Rendered.sql

end Renderer

/-! ### Statements inside of a block -/

/-- The place of the statements of a block, and of blocks inside of it. -/
def Target.insideBlock (target : Target) : Scope :=
  { target, inline := true, inBlock := true }

/-- The move into a block. -/
def Move.intoBlock : Move :=
  ⟨true, some true⟩

/-- Inside of a block a statement is drafted as on its own, with its values written out. -/
lemma Writers.statement_insideBlock {target : Target} {stmt : Statement}
    (hblock : ∀ b, stmt ≠ .block b) (hguard : stmt.isGuarded target.dialect = false) {n : Nat}
    (hn : stmt.rank ≤ n) :
    (level n).statement target.insideBlock stmt =
      (Draft.ofStatement target stmt).writtenOut target.dialect := by
  obtain ⟨k, hk⟩ := stmt.exists_rank_eq
  rw [hk] at hn
  obtain ⟨l, rfl⟩ := Nat.exists_eq_add_of_le hn
  have hmoves := moves_of_le .intoBlock (Nat.le_refl k) (Nat.le_add_right k l)
  rw [Draft.ofStatement_eq target hk, Nat.add_right_comm]
  exact (hmoves.draftStatement { target } (Nat.le_of_eq hk) hblock hguard).symm

/-- What is no block ends no statement. -/
lemma Writers.follows_statement_insideBlock (target : Target) {stmt : Statement}
    (hblock : ∀ b, stmt ≠ .block b) (n : Nat) :
    ((level n).statement target.insideBlock stmt).Follows .written := by
  cases n with
  | zero => exact Draft.follows_fail _
  | succ n =>
    have hw := level_settled n
    -- a statement inside of a block is written out whole, whichever it is
    cases stmt with
    | select q => exact hw.select target.insideBlock q
    | insert i => exact hw.insert target.insideBlock i
    | update u => exact hw.update target.insideBlock u
    | delete d => exact hw.delete target.insideBlock d
    | createIndex c => exact hw.createIndex target.insideBlock c
    | dropIndex d => exact follows_dropIndex target.insideBlock d
    | truncate t => exact follows_truncate target.insideBlock t
    | createSequence c => exact follows_createSequence target.insideBlock c
    | dropSequence d => exact follows_dropSequence target.insideBlock d
    | createTable c => exact hw.createTable target.insideBlock c
    | dropTable d => exact follows_dropTable target.insideBlock d
    | block b => exact absurd rfl (hblock b)

namespace Renderer

variable (r : Renderer)

lemma inlined_eq {stmt : Statement} (h : stmt.isExecutable = true) :
    r.inlined stmt = (r.style.spelling .inlined).text (Draft.ofStatement r.target stmt) := by
  rw [inlined, render_eq _ h, Style.text]
  change ((((r.style.spelling .inlined).run (.start [])
    (Draft.ofStatement r.target stmt)).map _).map _) = _
  cases (r.style.spelling .inlined).run (.start []) (Draft.ofStatement r.target stmt) <;> rfl

/-- Inside of a block a statement is written as on its own with literals for its values. -/
lemma text_statement_insideBlock {stmt : Statement} (hblock : ∀ b, stmt ≠ .block b)
    (hguard : stmt.isGuarded r.dialect = false) (hexecutable : stmt.isExecutable = true) {n : Nat}
    (hn : stmt.rank ≤ n) :
    r.style.Fixed ((Writers.level n).statement r.target.insideBlock stmt) ∧
      r.style.text ((Writers.level n).statement r.target.insideBlock stmt) = r.inlined stmt := by
  have hwritten := Writers.follows_statement_insideBlock r.target hblock n
  have hfixed : (r.style.spelling r.settings.parameters).Fixed _ :=
    Style.fixed_of_written hwritten r.settings.parameters
  have hspelling : (r.style.spelling r.settings.parameters).run (.start []) _ = _ :=
    Style.text_spelling (hwritten.allClosed (by decide)) r.settings.parameters .inlined
  have hout := r.style.run_writtenOut (Draft.ofStatement r.target stmt) (r := .start []) rfl
  refine ⟨hfixed, ?_⟩
  rw [r.inlined_eq hexecutable, Style.text, Style.text]
  rw [Writers.statement_insideBlock hblock hguard hn] at hspelling ⊢
  exact congrArg _ (hspelling.trans hout)

/-! ### Segments of a draft -/

/-- The text of a definition that is run as dynamic SQL. -/
lemma text_dynamic {w : Writers} {s : Scope} {stmt : Statement} (hs : s.dialect = r.dialect)
    (hinText : s.inText = s) (hwritten : (w.statement s stmt).Follows .written) :
    r.style.Fixed (w.dynamic s stmt) ∧
      r.style.text (w.dynamic s stmt) =
        (r.style.text (w.statement s stmt)).map r.dialect.family.executed := by
  have hembed := r.style.fixed_embed (by decide) .quoted hwritten
  -- the two forms differ in the words in front of the literal
  have hwords {start words : String} (h : start = words ++ "'") :
      r.style.Fixed (.text start ++ .embed .quoted (w.statement s stmt) ++ "'") ∧
        r.style.text (.text start ++ .embed .quoted (w.statement s stmt) ++ "'") =
          (r.style.text (w.statement s stmt)).map fun t => words ++ Text.literal t := by
    subst h
    refine ⟨((r.style.fixed_text _).append hembed).append (r.style.fixed_text _), ?_⟩
    rw [Style.text_append_text, Style.text_text_append _ hembed, r.style.text_embed]
    simp only [Text.literal, ← String.append_assoc]
    cases r.style.text (w.statement s stmt) <;> rfl
  have hfamily : s.family = r.dialect.family := congrArg Dialect.family hs
  rw [Writers.dynamic, hinText, hfamily]
  by_cases hfirebird : r.dialect.family = .firebird
  · rw [if_pos hfirebird, show r.dialect.family.executed = fun t => _ from
      funext fun t => by rw [Family.executed, if_pos hfirebird]]
    exact hwords (by decide)
  · rw [if_neg hfirebird, show r.dialect.family.executed = fun t => _ from
      funext fun t => by rw [Family.executed, if_neg hfirebird]]
    exact hwords (by decide)

/-- A statement of a block that is no block itself. -/
lemma text_member {stmt : Statement} (hblock : ∀ b, stmt ≠ .block b)
    (hguard : stmt.isGuarded r.dialect = false) (hexecutable : stmt.isExecutable = true) {n : Nat}
    (hn : stmt.rank ≤ n) :
    r.style.Fixed ((Writers.level n).member r.target.insideBlock stmt) ∧
      r.style.text ((Writers.level n).member r.target.insideBlock stmt) =
        Statement.segment r.dialect.family r.inlined stmt := by
  obtain ⟨hfixed, htext⟩ := r.text_statement_insideBlock hblock hguard hexecutable hn
  have hdynamic := r.text_dynamic (s := r.target.insideBlock) (w := .level n) rfl rfl
    (Writers.follows_statement_insideBlock r.target hblock n)
  have hfamily : Feature.dynamicDdl.contains r.dialect = true ↔
      r.dialect.family ∈ Family.dynamic := by
    cases r.dialect <;> decide
  -- a definition is run from a literal where the block cannot hold it, any other member as it is
  have hmember : (Writers.level n).member r.target.insideBlock stmt =
      if stmt.isDefinition = true ∧ r.dialect.family ∈ Family.dynamic then
        (Writers.level n).dynamic r.target.insideBlock stmt
      else (Writers.level n).statement r.target.insideBlock stmt := by
    have hdialect : r.target.insideBlock.dialect = r.dialect := rfl
    simp [Writers.member, Scope.has, hdialect, hguard, hfamily]
  rw [hmember, Statement.segment_of_not_block hblock]
  split
  · rw [← htext]
    exact hdynamic
  · refine ⟨hfixed, htext.trans ?_⟩
    cases r.inlined stmt <;> rfl

variable {r} in
/-- The statements of a block, given how each of them is written. -/
lemma text_members {w : Writers} {s : Scope} {text : Statement → Except Error String}
    {ss : List Statement} (h : ∀ stmt ∈ ss, stmt.isExecutable = true →
      r.style.Steady (w.member s stmt) ∧
        r.style.text (w.member s stmt) = Statement.segment r.dialect.family text stmt) :
    let members := Draft.concat ((ss.filter Statement.isExecutable).map fun stmt =>
      w.member s stmt ++ Draft.ofPiece .terminator)
    r.style.Steady members ∧
      r.style.text members = Statement.segments r.dialect.family text ss := by
  induction ss with
  | nil =>
    exact ⟨(r.style.fixed_of_written (Draft.follows_empty) r.settings.parameters).steady,
      r.style.text_empty⟩
  | cons stmt ss ih =>
    obtain ⟨hstmt, hss⟩ := List.forall_mem_cons.mp h
    obtain ⟨hsteady, htext⟩ := ih hss
    rw [Statement.segments]
    cases hexecutable : stmt.isExecutable with
    | false =>
      rw [List.filter_cons_of_neg (by simp [hexecutable]), if_neg Bool.false_ne_true]
      exact ⟨hsteady, htext⟩
    | true =>
      rw [List.filter_cons_of_pos hexecutable, if_pos rfl]
      obtain ⟨hmember, hsegment⟩ := hstmt hexecutable
      have hterminated := r.style.text_append_terminator (w.member s stmt)
      rw [hsegment] at hterminated
      -- each member ends its statement, so the next ones are written as they would be alone
      obtain ⟨hall, htextAll⟩ := hmember.append_terminator.append hsteady fun x hx => by
        rw [hterminated] at hx
        cases ht : Statement.segment r.dialect.family text stmt with
        | error e =>
          rw [ht] at hx
          cases hx
        | ok t =>
          rw [ht] at hx
          cases hx
          exact Style.endsStatement_terminated t
      refine ⟨hall, htextAll.trans ?_⟩
      rw [hterminated, htext]
      cases Statement.segment r.dialect.family text stmt <;> rfl

/-- A block inside of another one, given how its statements are written. -/
lemma text_innerBlock (b : Block) {n : Nat}
    (h : ∀ stmt ∈ b.statements, stmt.isExecutable = true →
      r.style.Steady ((Writers.level n).member r.target.insideBlock stmt) ∧
        r.style.text ((Writers.level n).member r.target.insideBlock stmt) =
          Statement.segment r.dialect.family r.inlined stmt) :
    r.style.Steady ((Writers.level (n + 1)).member r.target.insideBlock (.block b)) ∧
      r.style.text ((Writers.level (n + 1)).member r.target.insideBlock (.block b)) =
        Statement.segment r.dialect.family r.inlined (.block b) := by
  obtain ⟨hsteady, htext⟩ := text_members h
  have hblock : (Writers.level (n + 1)).member r.target.insideBlock (.block b) =
      "BEGIN " ++ (Writers.level n).members r.target.insideBlock b ++ "END" := rfl
  have hbegin : endsStatement "BEGIN " = false := by decide
  have hbetween := hsteady.between hbegin "END"
  rw [htext] at hbetween
  cases b
  exact hbetween

/-- The statements of a block at any depth are written as their segments. -/
lemma text_insideBlock : ∀ (n : Nat) (stmt : Statement), stmt.rank ≤ n →
    stmt.isUnguarded r.dialect = true → stmt.isExecutable = true →
    r.style.Steady ((Writers.level n).member r.target.insideBlock stmt) ∧
      r.style.text ((Writers.level n).member r.target.insideBlock stmt) =
        Statement.segment r.dialect.family r.inlined stmt
  | 0, stmt, hn, _, _ => by
    obtain ⟨k, hk⟩ := stmt.exists_rank_eq
    omega
  | n + 1, stmt, hn, hguard, hexecutable => by
    by_cases hblock : ∃ b, stmt = .block b
    · obtain ⟨b, rfl⟩ := hblock
      refine r.text_innerBlock b fun stmt hmem hexecutable => ?_
      have hrank : rankOfStatements b.statements ≤ n := by
        cases b
        exact Nat.le_of_add_le_add_left (Nat.add_comm n 1 ▸ hn)
      exact text_insideBlock n stmt (Nat.le_trans (rank_le_rankOfStatements hmem) hrank)
        (Statement.isUnguarded_block.mp hguard stmt hmem) hexecutable
    · have hblock := not_exists.mp hblock
      rw [Statement.isUnguarded_of_not_block hblock, Bool.not_eq_true'] at hguard
      obtain ⟨hfixed, htext⟩ := r.text_member hblock hguard hexecutable hn
      exact ⟨hfixed.steady, htext⟩

/-! ### Outermost blocks -/

/-- The text of a block as a procedure that is run once. -/
lemma text_procedure {w : Writers} (b : Block)
    (h : r.style.Steady (w.members r.target.insideBlock b)) :
    r.style.text (w.procedure { target := r.target, inline := true } b) =
      (r.style.text (w.members r.target.insideBlock b)).map
        (Family.mySql.procedure (r.style.name (Name.ofText b.name))) := by
  let name := Draft.qualified (Name.ofText b.name)
  have hname : r.style.Fixed name := r.style.fixed_qualified _
  have hnameText : r.style.text name = .ok (r.style.name (Name.ofText b.name)) :=
    r.style.text_qualified _
  have hstart : r.style.text ("CREATE PROCEDURE " ++ name ++ "() BEGIN ") =
      .ok ("CREATE PROCEDURE " ++ r.style.name (Name.ofText b.name) ++ "() BEGIN ") := by
    rw [Style.text_append_text, Style.text_text_append _ hname, hnameText]
    rfl
  have hbody := (((r.style.fixed_text "CREATE PROCEDURE ").append hname).append
    (r.style.fixed_text "() BEGIN ")).steady.append h fun x hx => by
      rw [hstart] at hx
      cases hx
      -- what stands before the members ends in a blank, and so does not end a statement
      exact Style.endsStatement_append_of_blank _ (by decide)
  change r.style.text ("CREATE PROCEDURE " ++ name ++ "() BEGIN " ++
    w.members r.target.insideBlock b ++ "END; CALL " ++ name ++ "(); DROP PROCEDURE " ++ name ++
    ";") = _
  rw [Style.text_append_text, Style.text_append _ hname, Style.text_append_text,
    Style.text_append _ hname, Style.text_append_text, hbody.2, hstart, hnameText]
  cases r.style.text (w.members r.target.insideBlock b) <;> rfl

/-- The text of an outermost block around that of its statements. -/
lemma text_outerBlock {w : Writers} (b : Block) (hfamily : r.dialect.family ∈ Family.procedural)
    {body : Except Error String}
    (h : r.style.Steady (w.members r.target.insideBlock b) ∧
      r.style.text (w.members r.target.insideBlock b) = body) :
    r.style.text (w.block { target := r.target } b) =
      body.map (r.dialect.family.procedure (r.style.name (Name.ofText b.name))) := by
  obtain ⟨hsteady, rfl⟩ := h
  have hbetween {before : String} (hbefore : endsStatement before = false) (after : String) :=
    (hsteady.between hbefore after).2
  have hdollars : r.style.text (.embed .dollars
        (" BEGIN " ++ w.members r.target.insideBlock b ++ "END ")) =
      (r.style.text (w.members r.target.insideBlock b)).map fun s =>
        Wrapping.dollars.around (" BEGIN " ++ s ++ "END ") := by
    have hbegin : endsStatement " BEGIN " = false := by decide
    have hbody := hbetween hbegin "END "
    rw [r.style.text_embed, hbody]
    cases r.style.text (w.members r.target.insideBlock b) <;> rfl
  have hprocedure := r.text_procedure b hsteady
  rw [Writers.block, if_neg Bool.false_ne_true, Writers.outerBlock,
    show (Scope.writtenOut { target := r.target }).family = r.dialect.family from rfl]
  generalize r.dialect.family = f at hfamily ⊢
  simp only [Family.procedural, List.mem_cons, List.not_mem_nil, or_false] at hfamily
  -- two families put the block between dollar tags, one makes a procedure, and the others need
  -- neither
  rcases hfamily with rfl | rfl | rfl | rfl | rfl | rfl | rfl | rfl
  · exact hdollars
  · exact hdollars
  · exact hbetween (by decide) "END;"
  · exact hbetween (by decide) "END"
  · exact hbetween (by decide) "END"
  · exact hbetween (by decide) "END"
  · exact hbetween (by decide) "END"
  · exact hprocedure

/-- A block is rendered as its segments, in the procedural language of the engine. -/
lemma render_block_eq (b : Block) (hfamily : r.dialect.family ∈ Family.procedural)
    (hexecutable : (Statement.block b).isExecutable = true)
    (hguard : (Statement.block b).isUnguarded r.dialect = true) :
    r.render (.block b) = (Statement.segments r.dialect.family r.inlined b.statements).map
      fun body => ⟨r.dialect.family.procedure (r.style.name (Name.ofText b.name)) body, []⟩ := by
  obtain ⟨k, hk⟩ := (Statement.block b).exists_rank_eq
  have hrank : rankOfStatements b.statements ≤ k := by
    cases b
    exact Nat.le_of_add_le_add_left (Nat.le_of_eq ((Nat.add_comm 1 k).symm ▸ hk))
  have hmembers := text_members fun stmt hmem hexecutable =>
    r.text_insideBlock k stmt (Nat.le_trans (rank_le_rankOfStatements hmem) hrank)
      (Statement.isUnguarded_block.mp hguard stmt hmem) hexecutable
  have hdraft : Draft.ofStatement r.target (.block b) =
      (Writers.level k).block { target := r.target } b := Draft.ofStatement_eq r.target hk
  have hclosed : allClosed (Draft.ofStatement r.target (.block b)).pieces := by
    rw [hdraft]
    exact ((Writers.level_settled k).block _ b).allClosed (by decide)
  rw [r.render_of_closed hexecutable hclosed, hdraft, r.text_outerBlock b hfamily hmembers]
  cases Statement.segments r.dialect.family r.inlined b.statements <;> rfl

end Renderer

/-- A block has its segments if each of its statements that does something has one. -/
lemma Statement.exists_segments_iff {f : Family} {text : Statement → Except Error String}
    {ss : List Statement} : (∃ body, segments f text ss = .ok body) ↔
      ∀ stmt ∈ ss, stmt.isExecutable = true → ∃ s, segment f text stmt = .ok s := by
  induction ss with
  | nil => simp [segments]
  | cons stmt ss ih =>
    rw [List.forall_mem_cons, ← ih, segments]
    cases stmt.isExecutable with
    | false => simp
    | true => cases segment f text stmt <;> cases segments f text ss <;> simp [Except.bind]

/-- A text that is run as dynamic SQL is read back. -/
lemma Family.carried?_executed {f : Family} (h : f ∈ Family.dynamic) (s : String) :
    f.carried? (f.executed s) = some s := by
  have hread {words : String} (hwords : words.toList ≠ [])
      (hfirst : Text.positionIn words.toList ("".toList ++ words.toList) = some "".toList.length) :
      (Text.literalAfter? words.toList (words ++ Text.literal s).toList).map String.ofList =
        some s := by
    have h : Text.literalAfter? words.toList ("" ++ words ++ (Text.literal s ++ "")).toList =
        some s.toList := Text.literalAfter?_literal hwords hfirst s (by decide)
    rw [String.empty_append, String.append_empty] at h
    rw [h, Option.map_some, String.ofList_toList]
  simp only [Family.dynamic, List.mem_cons, List.not_mem_nil, or_false] at h
  rcases h with rfl | rfl | rfl
  · exact hread (by decide) (by decide +kernel)
  · exact hread (by decide) (by decide +kernel)
  · exact hread (by decide) (by decide +kernel)

namespace Renderer

variable (r : Renderer)

/-- A statement of a block has a segment if it is rendered on its own. -/
lemma exists_segment_iff {stmt : Statement} (hfamily : r.dialect.family ∈ Family.procedural)
    (hexecutable : stmt.isExecutable = true) (hguard : stmt.isUnguarded r.dialect = true) :
    (∃ s, Statement.segment r.dialect.family r.inlined stmt = .ok s) ↔
      ∃ out, (r.spelling .inlined).render stmt = .ok out := by
  by_cases hblock : ∃ b, stmt = .block b
  · obtain ⟨b, rfl⟩ := hblock
    have hrender := (r.spelling .inlined).render_block_eq b hfamily hexecutable hguard
    have hsegment : Statement.segment r.dialect.family r.inlined (.block b) =
        (Statement.segments r.dialect.family r.inlined b.statements).map fun body =>
          "BEGIN " ++ body ++ "END" := by
      cases b
      rfl
    rw [hrender, hsegment]
    change _ ↔ ∃ out, (Statement.segments r.dialect.family r.inlined b.statements).map _ = .ok out
    cases Statement.segments r.dialect.family r.inlined b.statements <;> simp
  · rw [Statement.segment_of_not_block (not_exists.mp hblock), inlined]
    cases (r.spelling .inlined).render stmt <;> simp

/-- **Blocks.** A block without guarded definitions is rendered if each of its statements that does
something is rendered on its own with literals for its values. Its text is that of the procedural
language of the engine around one segment for each of these statements, in their order, and the
segments that are dynamic SQL are literals of the text of the definition. -/
theorem render_block (b : Block) (hfamily : r.dialect.family ∈ Family.procedural)
    (hexecutable : (Statement.block b).isExecutable = true)
    (hguard : (Statement.block b).isUnguarded r.dialect = true) :
    ((∃ out, r.render (.block b) = .ok out) ↔
        ∀ stmt ∈ b.statements, stmt.isExecutable = true →
          ∃ out, (r.spelling .inlined).render stmt = .ok out) ∧
      (∀ out, r.render (.block b) = .ok out →
        ∃ body, Statement.segments r.dialect.family r.inlined b.statements = .ok body ∧
          out.sql = r.dialect.family.procedure (r.style.name (Name.ofText b.name)) body ∧
          out.parameters = []) ∧
      (r.dialect.family ∈ Family.dynamic → ∀ s,
        r.dialect.family.carried? (r.dialect.family.executed s) = some s) := by
  have hsegments : (∃ body, Statement.segments r.dialect.family r.inlined b.statements = .ok body) ↔
      ∀ stmt ∈ b.statements, stmt.isExecutable = true →
        ∃ out, (r.spelling .inlined).render stmt = .ok out :=
    Statement.exists_segments_iff.trans <| forall₃_congr fun stmt hmem hexecutable =>
      r.exists_segment_iff hfamily hexecutable (Statement.isUnguarded_block.mp hguard stmt hmem)
  rw [r.render_block_eq b hfamily hexecutable hguard, ← hsegments]
  refine ⟨?_, fun out hout => ?_, Family.carried?_executed⟩
  · cases Statement.segments r.dialect.family r.inlined b.statements <;> simp
  · obtain ⟨body, hbody, rfl⟩ := map_eq_ok_iff.mp hout
    exact ⟨body, hbody, rfl, rfl⟩

/-- A block of Oracle with a value, an update that does nothing, and a definition in a block inside.
-/
theorem render_block_oracle :
    let r : Renderer := { dialect := .oracle }
    let b : Block := ⟨"p",
      [.insert ⟨.ofTexts ["t"], [], .values [[.bind (.ofNat 5)]], false, []⟩,
        .update (.of (.named ⟨.ofTexts ["t"], none, []⟩)),
        .block ⟨"q", [.dropTable ⟨.ofTexts ["it's"], false, false⟩]⟩]⟩
    r.dialect.family ∈ Family.procedural ∧ (Statement.block b).isExecutable = true ∧
      (Statement.block b).isUnguarded r.dialect = true ∧
      ∃ out, r.render (.block b) = .ok out ∧ out.parameters = [] ∧
        out.sql = "BEGIN INSERT INTO \"t\" VALUES (5); " ++
          "BEGIN EXECUTE IMMEDIATE 'DROP TABLE \"it''s\"'; END; END;" := by
  intro r b
  have hfamily : r.dialect.family ∈ Family.procedural := by decide
  have hexecutable : (Statement.block b).isExecutable = true := rfl
  have hguard : (Statement.block b).isUnguarded r.dialect = true := rfl
  have hsegments : Statement.segments r.dialect.family r.inlined b.statements =
      .ok ("INSERT INTO \"t\" VALUES (5); " ++
        "BEGIN EXECUTE IMMEDIATE 'DROP TABLE \"it''s\"'; END; ") := by
    decide +kernel
  obtain ⟨hsuccess, htext, -⟩ := r.render_block b hfamily hexecutable hguard
  obtain ⟨out, hout⟩ := hsuccess.mpr fun stmt hmem hexecutable =>
    (r.exists_segment_iff hfamily hexecutable
      (Statement.isUnguarded_block.mp hguard stmt hmem)).mp
      (Statement.exists_segments_iff.mp ⟨_, hsegments⟩ stmt hmem hexecutable)
  obtain ⟨body, hbody, hsql, hparameters⟩ := htext out hout
  rw [hsegments] at hbody
  cases hbody
  refine ⟨hfamily, hexecutable, hguard, out, hout, hparameters, hsql.trans ?_⟩
  decide

end Renderer

end Polysql

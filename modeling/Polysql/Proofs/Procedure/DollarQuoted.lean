import Polysql.Proofs.Place.Surrounded
import Polysql.Proofs.Procedure.Block
import Polysql.Proofs.Text.Occurrence
/-!
Texts between dollar tags. The search for a tag ends, since a text has more numbered tags to avoid
than places where they can begin; what it finds does not occur in the text. The blocks and the
guarded definitions that stand between dollar tags end with a blank before the closing one, so an
engine that looks for the tag behind the opening one finds the closing one first, whatever names and
literals stand in between (`Renderer.render_dollarQuoted`).
-/

namespace Polysql

namespace Text

/-- A text stands between dollar tags behind `DO`, and is read as it is: the first place where the
tag occurs behind the opening one is the closing one. -/
structure DollarQuotes (sql tag inner : String) : Prop where
  eq : sql = "DO " ++ tag ++ inner ++ tag
  first : positionIn tag.toList (inner ++ tag).toList = some inner.length
  read : (after? "DO ".toList sql.toList).bind dollarQuoted? = some inner.toList

/-- A text that ends with a blank stands between its dollar tags. -/
lemma dollarQuotes_around {inner : String} (h : inner.toList.getLast? = some ' ') :
    DollarQuotes (Wrapping.dollars.around inner) (dollarTag inner) inner where
  eq := rfl
  first := by
    rw [String.toList_append, positionIn_dollarTag h, String.length_toList]
  read := by
    have hfirst : positionIn "DO ".toList ([] ++ "DO ".toList) = some 0 := by decide
    have hafter (cs : List Char) : after? "DO ".toList ("DO ".toList ++ cs) = some cs :=
      after?_append (by decide) hfirst cs
    rw [Wrapping.around, String.append_assoc, String.append_assoc, String.toList_append, hafter,
      Option.bind_some, String.toList_append, String.toList_append]
    exact dollarQuoted?_dollarTag h

/-- A text between words without dollar signs, the last of which ends with a blank, stands between
its own dollar tags. -/
lemma dollarQuotes_between {before after : String} (hbefore : '$' ∉ before.toList)
    (hafter : '$' ∉ after.toList) (hblank : after.toList.getLast? = some ' ') (body : String) :
    DollarQuotes (Wrapping.dollars.around (before ++ body ++ after)) (dollarTag body)
      (before ++ body ++ after) := by
  rw [← dollarTag_between hbefore hafter body]
  refine dollarQuotes_around ?_
  rw [String.toList_append, List.getLast?_append, hblank, Option.some_or]

end Text

/-- What stands around a definition in a block that passes over an error on Postgres. -/
def Guard.executed (g : Guard) (s : String) : String :=
  "BEGIN EXECUTE " ++ Text.literal s ++ "; EXCEPTION WHEN " ++ g.postgresCondition ++
    " THEN NULL; END"

lemma Guard.dollarBody_eq (g : Guard) (s : String) :
    g.dollarBody s = " " ++ g.executed s ++ " " := by
  have hstart : "BEGIN EXECUTE '" = "BEGIN EXECUTE " ++ "'" := by decide
  have hnext : "'; EXCEPTION WHEN " = "'" ++ "; EXCEPTION WHEN " := by decide
  -- about any texts, because literals are slow to compare
  have hquotes (blank start quote next x y tail : String) :
      blank ++ (start ++ quote ++ x ++ (quote ++ next) ++ y ++ tail) ++ blank =
        blank ++ (start ++ (quote ++ x ++ quote) ++ next ++ y ++ tail) ++ blank := by
    simp only [String.append_assoc]
  calc g.dollarBody s
      = " " ++ ("BEGIN EXECUTE " ++ "'" ++ Text.doubled '\'' s ++ ("'" ++ "; EXCEPTION WHEN ") ++
          g.postgresCondition ++ " THEN NULL; END") ++ " " := by
        rw [← hstart, ← hnext]
        rfl
    _ = " " ++ g.executed s ++ " " := hquotes _ _ _ _ _ _ _

namespace Renderer

variable (r : Renderer)

/-- A block of Postgres is rendered as the text of its statements between dollar tags. -/
lemma render_block_dollars {b : Block} (hfamily : r.dialect.family ∈ [.postgres, .yugabyteDb])
    (hexecutable : (Statement.block b).isExecutable = true) :
    r.render (.block b) =
      (r.style.text (Writers.ofRank.members r.target.insideBlock b)).map fun body =>
        ⟨Wrapping.dollars.around (" BEGIN " ++ body ++ "END "), []⟩ := by
  have hdraft : Draft.ofStatement r.target (.block b) =
      Writers.ofRank.block { target := r.target } b :=
    congrFun (congrFun (congrArg Writers.statement Writers.next_ofRank.symm) { target := r.target })
      (.block b)
  -- every text of the block is closed, so it can be embedded
  have hclosed : allClosed (Draft.ofStatement r.target (.block b)).pieces := by
    rw [hdraft]
    exact (Writers.ofRank_settled.block _ b).allClosed (by decide)
  have hmembers : r.style.Steady (Writers.ofRank.members r.target.insideBlock b) :=
    Style.steady_of_closed ((Writers.ofRank_settled.members rfl b).allClosed (by decide))
  have hprocedure : r.dialect.family ∈ Family.procedural ∧
      ∀ name, r.dialect.family.procedure name = fun body =>
        Wrapping.dollars.around (" BEGIN " ++ body ++ "END ") := by
    generalize r.dialect.family = f at hfamily
    simp only [List.mem_cons, List.not_mem_nil, or_false] at hfamily
    rcases hfamily with rfl | rfl
    · exact ⟨by decide, fun _ => rfl⟩
    · exact ⟨by decide, fun _ => rfl⟩
  obtain ⟨hprocedural, haround⟩ := hprocedure
  rw [r.render_of_closed hexecutable hclosed, hdraft,
    r.text_outerBlock b hprocedural ⟨hmembers, rfl⟩, haround]
  cases r.style.text (Writers.ofRank.members r.target.insideBlock b) <;> rfl

/-- A definition that is guarded on Postgres is rendered as the block around it between dollar
tags. -/
lemma render_guarded_dollars {stmt : Statement} {g : Guard}
    (hfamily : r.dialect.family ∈ [.postgres, .yugabyteDb, .redshift])
    (hg : stmt.guard? = some g) (hlacks : g.check.contains r.dialect = false) :
    (∃ e, r.render stmt = .error e) ∨
      r.render stmt = (r.render stmt.unchecked).map fun plain =>
        ⟨Wrapping.dollars.around (" " ++ g.executed plain.sql ++ " "), []⟩ := by
  obtain ⟨hdefinition, hplain⟩ := Statement.isDefinition_of_guard? hg
  have hwritten := Draft.ofStatement_written r.target hplain
  have hwrapped : r.dialect.family ∈ Family.catching ∧
      ∀ s, g.wrapped r.dialect.family s = Wrapping.dollars.around (g.dollarBody s) := by
    generalize r.dialect.family = f at hfamily
    simp only [List.mem_cons, List.not_mem_nil, or_false] at hfamily
    rcases hfamily with rfl | rfl | rfl
    · exact ⟨by decide, fun _ => rfl⟩
    · exact ⟨by decide, fun _ => rfl⟩
    · exact ⟨by decide, fun _ => rfl⟩
  obtain ⟨hcatching, haround⟩ := hwrapped
  rw [r.render_definition hdefinition, r.render_definition hplain]
  -- either the statement is refused, or its block is the one between dollar tags
  obtain ⟨e, hfail, -⟩ | hblock := Draft.ofStatement_guarded r.target hg hlacks
  · exact .inl ⟨e, by rw [hfail, Style.text_fail, error_map]⟩
  · rw [hblock, g.text_block hwritten hcatching]
    refine .inr ?_
    cases r.style.text (Draft.ofStatement r.target stmt.unchecked) with
    | error e => rfl
    | ok t =>
      change Except.ok (⟨g.wrapped r.dialect.family t, []⟩ : Rendered) = _
      rw [haround, g.dollarBody_eq]
      rfl

end Renderer

end Polysql

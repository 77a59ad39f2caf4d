import Polysql.Proofs.Text.Occurrence
import Polysql.Proofs.Writing.Text
import Polysql.Render
/-!
One statement with its clauses on one line and on lines of their own. A `Layout` is what both texts
have in common: fragments, and the depths of the clauses between them. Where the text written so far
decides what comes next, it decides alike for every layout, as long as clauses are set apart by
white space: a statement is not ended by it, quotes are not doubled in it, and a dollar tag does not
occur across it. So both texts are the same layout with other separators
(`Renderer.write_arranged`).
-/

namespace Polysql

/-! ### Layouts -/

/-- A text whose clauses can be set apart in several ways. -/
inductive Layout where
  /-- The text of the last clause. -/
  | last (fragment : String)
  /-- Text, the start of a clause at a depth, and the layout from there on. -/
  | clause (fragment : String) (depth : Nat) (rest : Layout)

/-- What can stand between clauses at each depth: white space, and some of it. -/
structure IsSeparator (separator : Nat → String) : Prop where
  ne_empty (depth : Nat) : (separator depth).toList ≠ []
  allBlank (depth : Nat) : Text.AllBlank (separator depth).toList

/-- White space begins with some character. -/
lemma IsSeparator.of_cons {separator : Nat → String} {first : Char} {rest : Nat → List Char}
    (h : ∀ depth, (separator depth).toList = first :: rest depth)
    (hfirst : Text.isBlank first = true) (hrest : ∀ depth, Text.AllBlank (rest depth)) :
    IsSeparator separator where
  ne_empty depth := by
    rw [h]
    exact List.cons_ne_nil _ _
  allBlank depth := by
    rw [h]
    exact List.forall_mem_cons.mpr ⟨hfirst, hrest depth⟩

namespace Layout

/-- The text with something between its clauses. -/
def text (separator : Nat → String) : Layout → String
  | last fragment => fragment
  | clause fragment depth rest => fragment ++ separator depth ++ rest.text separator

/-- Further text in front. -/
def afterText (s : String) : Layout → Layout
  | last fragment => last (s ++ fragment)
  | clause fragment depth rest => clause (s ++ fragment) depth rest

/-- One layout and then another, as one clause where they meet. -/
def append : Layout → Layout → Layout
  | last fragment, l => l.afterText fragment
  | clause fragment depth rest, l => clause fragment depth (rest.append l)

/-- All fragments changed. -/
def map (f : String → String) : Layout → Layout
  | last fragment => last (f fragment)
  | clause fragment depth rest => clause (f fragment) depth (rest.map f)

section

variable (separator : Nat → String)

@[simp] lemma text_last (s : String) : (last s).text separator = s := rfl

@[simp] lemma text_afterText (s : String) (l : Layout) :
    (l.afterText s).text separator = s ++ l.text separator := by
  cases l with
  | last fragment => rfl
  | clause fragment depth rest => simp only [afterText, text, String.append_assoc]

@[simp] lemma text_append (l m : Layout) :
    (l.append m).text separator = l.text separator ++ m.text separator := by
  induction l with
  | last fragment => exact text_afterText separator fragment m
  | clause fragment depth rest ih => simp only [append, text, ih, String.append_assoc]

end

section

variable {σ τ : Nat → String}

/-- Quotes are doubled in the fragments only. -/
lemma text_map_doubled {mark : Char} (hmark : Text.isBlank mark = false) (hσ : IsSeparator σ)
    (l : Layout) : (l.map (Text.doubled mark)).text σ = Text.doubled mark (l.text σ) := by
  induction l with
  | last fragment => rfl
  | clause fragment depth rest ih =>
    have hfree : mark ∉ (σ depth).toList := (hσ.allBlank depth).not_mem hmark
    simp only [map, text, ih, Text.doubled_append, Text.doubled_eq_self hfree]

/-- White space ends no statement. -/
lemma endsStatement_separator (hσ : IsSeparator σ) (s : String) (depth : Nat) :
    endsStatement (s ++ σ depth) = false := by
  have hlast := List.getLast?_eq_some_getLast (hσ.ne_empty depth)
  have hblank := hσ.allBlank depth _ (List.getLast_mem (hσ.ne_empty depth))
  rw [endsStatement, String.toList_append, List.getLast?_append, hlast, Option.some_or,
    beq_eq_false_iff_ne]
  intro hsemicolon
  rw [Option.some.inj hsemicolon] at hblank
  exact absurd hblank (by decide)

/-- Whether a statement has its end does not depend on how clauses are set apart. -/
lemma endsStatement_text (hσ : IsSeparator σ) (hτ : IsSeparator τ) (l : Layout) :
    endsStatement (l.text σ) = endsStatement (l.text τ) := by
  induction l with
  | last fragment => rfl
  | clause fragment depth rest ih =>
    rw [text, text, Style.endsStatement_append _ _ (endsStatement_separator hσ fragment depth),
      Style.endsStatement_append _ _ (endsStatement_separator hτ fragment depth), ih]

/-- The words that occur in a text do not depend on how its clauses are set apart. -/
lemma occursIn_text (hσ : IsSeparator σ) (hτ : IsSeparator τ) {word : String}
    (hword : Text.IsWord word.toList) (l : Layout) :
    Text.occursIn word (l.text σ) = Text.occursIn word (l.text τ) := by
  have hsplit {σ : Nat → String} (hσ : IsSeparator σ) (fragment : String) (depth : Nat)
      (rest : Layout) : Text.occursIn word ((clause fragment depth rest).text σ) = true ↔
        Text.occursIn word fragment = true ∨ Text.occursIn word (rest.text σ) = true := by
    rw [text, Text.occursIn_iff, Text.occursIn_iff, Text.occursIn_iff, String.toList_append,
      String.toList_append, List.append_assoc]
    exact Text.infix_separated_iff hword (hσ.allBlank depth) (hσ.ne_empty depth)
  induction l with
  | last fragment => rfl
  | clause fragment depth rest ih =>
    rw [Bool.eq_iff_iff, hsplit hσ, hsplit hτ, ih]

/-- The dollar tag of a text does not depend on how its clauses are set apart. -/
lemma dollarTag_text (hσ : IsSeparator σ) (hτ : IsSeparator τ) (l : Layout) :
    Text.dollarTag (l.text σ) = Text.dollarTag (l.text τ) :=
  Text.dollarTag_congr fun _ hword => l.occursIn_text hσ hτ hword

end

end Layout

/-! ### Writing -/

/-- What ends a statement depends on the text before. -/
lemma Written.terminate_eq (r : Written) :
    r.terminate = r.add (if endsStatement r.text then " " else "; ") := by
  simp only [terminate, endsStatement, beq_iff_eq]
  split <;> rfl

namespace Style

/-- The style with each clause on a line of its own, or with all of them on one line. -/
def arranged (st : Style) (onLines : Bool) : Style :=
  { st with settings := { st.settings with formatted := onLines } }

/-- What has been written in both arrangements: one layout, and the same besides. -/
def Arranges (st : Style) (w : Bool → Written) : Prop :=
  ∃ (l : Layout) (bound : List Parameter) (error? : Option Error),
    w = fun onLines => ⟨l.text (st.arranged onLines).separator, bound, error?⟩

variable {st : Style}

lemma isSeparator_arranged (h : Text.AllBlank st.settings.indentation.toList) (onLines : Bool) :
    IsSeparator (st.arranged onLines).separator := by
  cases onLines with
  | false =>
    -- the two separators have a first character and then blanks only
    have htext (depth : Nat) : ((st.arranged false).separator depth).toList = [' '] := by
      rw [separator, arranged, if_neg Bool.false_ne_true]
      decide
    exact .of_cons htext rfl fun _ => nofun
  | true =>
    have hindent (depth : Nat) :
        Text.AllBlank (String.join (List.replicate depth st.settings.indentation)).toList := by
      induction depth with
      | zero => exact nofun
      | succ depth ih =>
        rw [List.replicate_succ, String.join_cons, String.toList_append]
        exact h.append ih
    have htext (depth : Nat) : ((st.arranged true).separator depth).toList =
        '\n' :: (String.join (List.replicate depth st.settings.indentation)).toList :=
      String.toList_append
    exact .of_cons htext rfl hindent

lemma arranges_start (bound : List Parameter) : st.Arranges fun _ => .start bound :=
  ⟨.last "", bound, none, rfl⟩

namespace Arranges

variable {w : Bool → Written}

/-- A further part with a layout of its own. -/
lemma add (hw : st.Arranges w) (m : Layout) :
    st.Arranges fun onLines => (w onLines).add (m.text (st.arranged onLines).separator) := by
  obtain ⟨l, bound, error?, rfl⟩ := hw
  refine ⟨l.append m, bound, error?, funext fun onLines => ?_⟩
  rw [Layout.text_append]
  rfl

lemma addText (hw : st.Arranges w) (s : Except Error String) :
    st.Arranges fun onLines => (w onLines).addText s := by
  cases s with
  | ok s => exact hw.add (.last s)
  | error e =>
    obtain ⟨l, bound, error?, rfl⟩ := hw
    exact ⟨l, bound, some e, rfl⟩

lemma bind (hw : st.Arranges w) (p : Parameter) (placeholder : Nat → String) :
    st.Arranges fun onLines => (w onLines).bind p placeholder := by
  obtain ⟨l, bound, error?, rfl⟩ := hw
  refine ⟨l.append (.last (placeholder (bound.length + 1))), bound ++ [p], error?,
    funext fun onLines => ?_⟩
  rw [Layout.text_append]
  rfl

lemma writeConstant (hw : st.Arranges w) (c : Constant) :
    st.Arranges fun onLines => (st.arranged onLines).writeConstant (w onLines) c := by
  change st.Arranges fun onLines => st.writeConstant (w onLines) c
  simp only [Style.writeConstant]
  split
  · exact hw.addText _
  · exact hw.bind _ _
  · exact hw.bind _ _

/-- A statement ends alike in both arrangements. -/
lemma terminate (hw : st.Arranges w)
    (h : Text.AllBlank st.settings.indentation.toList) :
    st.Arranges fun onLines => (w onLines).terminate := by
  obtain ⟨l, bound, error?, rfl⟩ := hw
  have hends (onLines : Bool) := l.endsStatement_text (isSeparator_arranged h onLines)
    (isSeparator_arranged h false)
  simp only [Written.terminate_eq, hends]
  exact add ⟨l, bound, error?, rfl⟩ (.last _)

/-- What is embedded is embedded alike. -/
lemma embedded (hw : st.Arranges w) {inner : Bool → Written} (hinner : st.Arranges inner)
    (h : Text.AllBlank st.settings.indentation.toList) (wrapping : Wrapping) :
    st.Arranges fun onLines =>
      { inner onLines with text := (w onLines).text ++ wrapping.around (inner onLines).text } := by
  obtain ⟨l, bound, error?, rfl⟩ := hw
  obtain ⟨m, bound', error?', rfl⟩ := hinner
  have hplain := isSeparator_arranged h false
  cases wrapping with
  | quoted =>
    refine ⟨l.append (m.map (Text.doubled '\'')), bound', error?', funext fun onLines => ?_⟩
    rw [Layout.text_append,
      Layout.text_map_doubled (by decide) (isSeparator_arranged h onLines)]
    rfl
  | dollars =>
    -- the tag is chosen for the text on one line, but white space has no part in it
    let tag := Text.dollarTag (m.text (st.arranged false).separator)
    refine ⟨l.append ((m.append (.last tag)).afterText ("DO " ++ tag)), bound', error?',
      funext fun onLines => ?_⟩
    have htag := m.dollarTag_text (isSeparator_arranged h onLines) hplain
    simp only [Wrapping.around, htag, Layout.text_append, Layout.text_afterText, Layout.text_last,
      String.append_assoc, tag]

end Arranges

/-! ### Pieces -/

mutual

/-- A piece is written after one layout as part of one layout. -/
lemma arranges_writePiece (h : Text.AllBlank st.settings.indentation.toList) :
    ∀ (p : Piece) {w : Bool → Written}, st.Arranges w →
      st.Arranges fun onLines => (st.arranged onLines).writePiece (w onLines) p
  | .text s, _, hw => hw.add (.last s)
  | .name p, _, hw => hw.add (.last (p.written st.settings st.dialect.family))
  | .literal _ s, _, hw => hw.add (.last s)
  | .parameter c, _, hw => hw.writeConstant c
  | .clause depth, _, hw => by
    have hadd := hw.add (.clause "" depth (.last ""))
    simpa only [writePiece, Layout.text, String.empty_append, String.append_empty] using hadd
  | .terminator, _, hw => hw.terminate h
  | .embedded wrapping body, _, hw => by
    obtain ⟨l, bound, error?, rfl⟩ := hw
    have hinner := arranges_writePieces h body (arranges_start bound)
    exact Arranges.embedded ⟨l, bound, error?, rfl⟩ hinner h wrapping

/-- Pieces are written after one layout as part of one layout. The error that stops them is the
same. -/
lemma arranges_writePieces (h : Text.AllBlank st.settings.indentation.toList) :
    ∀ (ps : List Piece) {w : Bool → Written}, st.Arranges w →
      st.Arranges fun onLines => (st.arranged onLines).writePieces (w onLines) ps
  | [], _, hw => hw
  | p :: ps, w, hw => by
    have hp := arranges_writePiece h p hw
    obtain ⟨l, bound, error?, hl⟩ := hp
    have hstep (onLines : Bool) := congrFun hl onLines
    cases error? with
    | none =>
      have hps := arranges_writePieces h ps (w := fun onLines => _) ⟨l, bound, none, rfl⟩
      simpa only [writePieces, hstep] using hps
    | some e => exact ⟨l, bound, some e, funext fun onLines => by simp only [writePieces, hstep]⟩

end

/-- A draft is written as one layout. -/
lemma arranges_write (h : Text.AllBlank st.settings.indentation.toList) (d : Draft)
    (bound : List Parameter) :
    st.Arranges fun onLines => (st.arranged onLines).write (.start bound) d := by
  obtain ⟨l, bound', error?, hl⟩ := arranges_writePieces h d.pieces (arranges_start bound)
  refine ⟨l, bound', error?.or d.error?, funext fun onLines => ?_⟩
  rw [write, congrFun hl onLines]

end Style

/-! ### Statements -/

/-- The renderer with each clause on a line of its own, or with all of them on one line. -/
def Renderer.arranged (r : Renderer) (onLines : Bool) : Renderer :=
  { r with settings := { r.settings with formatted := onLines } }

lemma Renderer.arranges_write (r : Renderer) (bound : List Parameter) (stmt : Statement)
    (h : Text.AllBlank r.settings.indentation.toList) :
    r.style.Arranges fun onLines => (r.arranged onLines).write bound stmt := by
  simp only [Renderer.write]
  split
  · exact Style.arranges_write h (Draft.ofStatement r.target stmt) bound
  · exact Style.arranges_start bound

/-- **Formatting changes white space between clauses only.** When the indentation consists of white
space, a statement with each clause on a line of its own fails as the statement on one line does,
and binds the same values. The texts have the same fragments: on one line there is a blank between
them, and otherwise a line end and the indentation of the depth of the clause. -/
theorem Renderer.write_arranged (r : Renderer) (bound : List Parameter) (stmt : Statement)
    (h : ∀ c ∈ r.settings.indentation.toList, Text.isBlank c = true) :
    ((r.arranged true).write bound stmt).error? = ((r.arranged false).write bound stmt).error? ∧
    ((r.arranged true).write bound stmt).parameters =
      ((r.arranged false).write bound stmt).parameters ∧
    ∃ l : Layout,
      ((r.arranged false).write bound stmt).text = l.text (fun _ => " ") ∧
      ((r.arranged true).write bound stmt).text = l.text fun depth =>
        "\n" ++ String.join (List.replicate depth r.settings.indentation) := by
  obtain ⟨l, bound', error?, hl⟩ := r.arranges_write bound stmt h
  have hwritten (onLines : Bool) : (r.arranged onLines).write bound stmt =
      ⟨l.text (r.style.arranged onLines).separator, bound', error?⟩ := congrFun hl onLines
  rw [hwritten, hwritten]
  exact ⟨rfl, rfl, l, rfl, rfl⟩

/-- A query inside of another one, in a block between dollar tags. -/
theorem Renderer.write_arranged_block :
    let r : Renderer := { dialect := .postgres, settings := { indentation := "\t" } }
    let q : Select := { fields := [⟨.column (.ofTexts ["a"]), none⟩],
                        tables := [.named ⟨.ofTexts ["u"], none, []⟩] }
    let stmt : Statement := .block ⟨"p", [.select { fields := [⟨.subquery q, none⟩] }]⟩
    (∀ c ∈ r.settings.indentation.toList, Text.isBlank c = true) ∧
      ((r.arranged true).write [] stmt).error? = ((r.arranged false).write [] stmt).error? ∧
      ((r.arranged false).write [] stmt).text =
        "DO $$ BEGIN SELECT (SELECT \"a\" FROM \"u\"); END $$" ∧
      ((r.arranged true).write [] stmt).text =
        "DO $$ BEGIN SELECT (SELECT \"a\"\n\tFROM \"u\"); END $$" ∧
      ∃ l : Layout,
        ((r.arranged false).write [] stmt).text = l.text (fun _ => " ") ∧
        ((r.arranged true).write [] stmt).text = l.text fun depth =>
          "\n" ++ String.join (List.replicate depth r.settings.indentation) := by
  intro r q stmt
  have hindent : ∀ c ∈ r.settings.indentation.toList, Text.isBlank c = true :=
    List.all_eq_true.mp (by decide +kernel)
  obtain ⟨herror, -, l, hplain, hlines⟩ := Renderer.write_arranged r [] stmt hindent
  exact ⟨hindent, herror, by decide +kernel, by decide +kernel, l, hplain, hlines⟩

end Polysql

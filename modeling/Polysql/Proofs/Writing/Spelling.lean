import Mathlib.Data.List.Defs
import Polysql.Proofs.Draft.Statement
import Polysql.Render
/-!
One statement under the three styles of parameters. The texts differ at the places of the bound
values only: `Template` is what they have in common. There the values are written out, or stand
as placeholders in the order in which they are collected (`Renderer.write_spelling`).
-/

namespace Polysql

/-! ### Texts with places for values -/

/-- Text with places for values. -/
structure Template where
  /-- The text before the first value. -/
  first : String
  /-- Each value, and the text after it. -/
  places : List (Parameter × String)

namespace Template

/-- The values in the order of their places. -/
def values (t : Template) : List Parameter :=
  t.places.map Prod.fst

/-- The text with something at each of its places. -/
def fill (t : Template) (spelled : List String) : String :=
  t.first ++ String.join (List.zipWith (fun s place => s ++ place.2) spelled t.places)

/-- What stands for the values when some others come before them: marks by position. -/
def marks (t : Template) (mark : Nat → Parameter → String) (before : Nat) : List String :=
  t.values.mapIdx fun i p => mark (before + i + 1) p

/-- The template without places. -/
def fixed (text : String) : Template := ⟨text, []⟩

/-- Further text in front. -/
def afterText (text : String) (t : Template) : Template :=
  { t with first := text ++ t.first }

/-- A further value in front. -/
def afterValue (p : Parameter) (t : Template) : Template :=
  ⟨"", (p, t.first) :: t.places⟩

@[simp] lemma values_fixed (text : String) : (fixed text).values = [] := rfl

@[simp] lemma fill_fixed (text : String) (spelled : List String) :
    (fixed text).fill spelled = text := by
  cases spelled <;> simp [fill, fixed]

@[simp] lemma values_afterText (text : String) (t : Template) :
    (afterText text t).values = t.values := rfl

@[simp] lemma fill_afterText (text : String) (t : Template) (spelled : List String) :
    (afterText text t).fill spelled = text ++ t.fill spelled :=
  String.append_assoc

@[simp] lemma values_afterValue (p : Parameter) (t : Template) :
    (afterValue p t).values = p :: t.values := rfl

@[simp] lemma fill_afterValue (p : Parameter) (t : Template) (s : String) (spelled : List String) :
    (afterValue p t).fill (s :: spelled) = s ++ t.fill spelled := by
  simp [fill, afterValue, String.join_cons, String.append_assoc]

@[simp] lemma marks_fixed (text : String) (mark : Nat → Parameter → String) (before : Nat) :
    (fixed text).marks mark before = [] := rfl

@[simp] lemma marks_afterText (text : String) (t : Template) (mark : Nat → Parameter → String)
    (before : Nat) : (afterText text t).marks mark before = t.marks mark before := rfl

@[simp] lemma marks_afterValue (p : Parameter) (t : Template) (mark : Nat → Parameter → String)
    (before : Nat) :
    (afterValue p t).marks mark before = mark (before + 1) p :: t.marks mark (before + 1) := by
  simp only [marks, values_afterValue, List.mapIdx_cons]
  refine congrArg (_ :: ·) (List.mapIdx_eq_mapIdx_iff.mpr fun i h => ?_)
  rw [show before + (i + 1) + 1 = before + 1 + i + 1 by omega]

end Template

/-! ### Styles of parameters -/

/-- The style with another form of bound values. -/
def Style.spelling (st : Style) (form : ParameterStyle) : Style :=
  { st with settings := { st.settings with parameters := form } }

/-- Values are bound, and a mark stands for each of them. -/
def Style.Binds (st : Style) (mark : Nat → Parameter → String) : Prop :=
  ∀ (r : Written) (c : Constant),
    st.writeConstant r c = r.bind c.parameter fun n => mark n c.parameter

lemma Style.binds_indexed (st : Style) :
    (st.spelling .indexed).Binds fun n _ => st.dialect.placeholder n :=
  fun _ _ => rfl

lemma Style.binds_named (st : Style) :
    (st.spelling .named).Binds fun n p => st.dialect.namedPlaceholder n p.name? :=
  fun _ _ => rfl

namespace Style

variable (st : Style)

/-! ### Pieces that bind nothing -/

mutual

/-- A piece that binds nothing is written alike whatever the form of bound values. -/
lemma writePiece_closed : ∀ p : Piece, p.isClosed →
    ∃ f : String → String, ∀ (form : ParameterStyle) (text : String) (bound : List Parameter),
      (st.spelling form).writePiece ⟨text, bound, none⟩ p = ⟨f text, bound, none⟩
  | .text s, _ => ⟨(· ++ s), fun _ _ _ => rfl⟩
  | .name p, _ =>
    ⟨(· ++ p.written st.settings st.dialect.family), fun _ _ _ => rfl⟩
  | .literal _ s, _ => ⟨(· ++ s), fun _ _ _ => rfl⟩
  | .parameter c, h => by simp [Piece.isClosed] at h
  | .clause depth, _ => ⟨(· ++ st.separator depth), fun _ _ _ => rfl⟩
  | .terminator, _ =>
    ⟨fun text => if text.toList.getLast? = some ';' then text ++ " " else text ++ "; ",
      fun form text bound => by
        simp only [writePiece, Written.terminate, Written.add]
        split <;> rfl⟩
  | .embedded wrapping body, h => by
    obtain ⟨f, hf⟩ := writePieces_closed body h
    exact ⟨(· ++ wrapping.around (f "")), fun form text bound => by
      simp only [writePiece, Written.start, hf form "" bound]⟩

/-- A list of pieces that binds nothing. -/
lemma writePieces_closed : ∀ ps : List Piece, allClosed ps →
    ∃ f : String → String, ∀ (form : ParameterStyle) (text : String) (bound : List Parameter),
      (st.spelling form).writePieces ⟨text, bound, none⟩ ps = ⟨f text, bound, none⟩
  | [], _ => ⟨id, fun _ _ _ => rfl⟩
  | p :: ps, h => by
    obtain ⟨hp, hps⟩ : p.isClosed ∧ allClosed ps := by simpa [allClosed] using h
    obtain ⟨f, hf⟩ := writePiece_closed p hp
    obtain ⟨g, hg⟩ := writePieces_closed ps hps
    exact ⟨g ∘ f, fun form text bound => by
      simp only [writePieces, hf form text bound, hg form (f text) bound]; rfl⟩

end

/-! ### Pieces that bind values -/

/-- A piece that binds no value and ends no statement adds a fixed text. -/
lemma writePiece_fixed {p : Piece} (h : p.Follows .bound) (hp : ∀ c, p ≠ .parameter c) :
    ∃ x : String, ∀ (form : ParameterStyle) (text : String) (bound : List Parameter),
      (st.spelling form).writePiece ⟨text, bound, none⟩ p = ⟨text ++ x, bound, none⟩ := by
  cases p with
  | text s => exact ⟨s, fun _ _ _ => rfl⟩
  | name p => exact ⟨p.written st.settings st.dialect.family, fun _ _ _ => rfl⟩
  | literal _ s => exact ⟨s, fun _ _ _ => rfl⟩
  | parameter c => exact absurd rfl (hp c)
  | clause depth => exact ⟨st.separator depth, fun _ _ _ => rfl⟩
  | terminator => simp [Piece.Follows] at h
  | embedded wrapping body =>
    obtain ⟨f, hf⟩ := st.writePieces_closed body h
    exact ⟨wrapping.around (f ""), fun form text bound => by
      simp only [writePiece, Written.start, hf form "" bound]⟩

/-- A template describes what is written: marks at its places where values are bound, and literals
where they are written out. -/
structure Describes (t : Template) (ps : List Piece) : Prop where
  binding {form : ParameterStyle} {mark : Nat → Parameter → String}
    (h : (st.spelling form).Binds mark) (text : String) (bound : List Parameter) :
    (st.spelling form).writePieces ⟨text, bound, none⟩ ps =
      ⟨text ++ t.fill (t.marks mark bound.length), bound ++ t.values, none⟩
  inlining {text : String} {bound : List Parameter}
    (h : ((st.spelling .inlined).writePieces ⟨text, bound, none⟩ ps).error? = none) :
    ∃ literals, t.values.mapM (fun p => st.dialect.literal p.type p.value) = .ok literals ∧
      (st.spelling .inlined).writePieces ⟨text, bound, none⟩ ps =
        ⟨text ++ t.fill literals, bound, none⟩

variable {st}

lemma describes_nil : st.Describes (.fixed "") [] where
  binding _ text bound := by simp [writePieces]
  inlining _ := ⟨[], rfl, by simp [writePieces]⟩

lemma describes_fixed {p : Piece} {ps : List Piece} {t : Template} (ht : st.Describes t ps)
    {x : String} (hx : ∀ (form : ParameterStyle) (text : String) (bound : List Parameter),
      (st.spelling form).writePiece ⟨text, bound, none⟩ p = ⟨text ++ x, bound, none⟩) :
    st.Describes (.afterText x t) (p :: ps) where
  binding {form _} h text bound := by
    simp only [writePieces, hx form text bound, ht.binding h (text ++ x) bound]
    simp [String.append_assoc]
  inlining {text bound} h := by
    simp only [writePieces, hx .inlined text bound] at h
    obtain ⟨literals, hliterals, hwritten⟩ := ht.inlining h
    refine ⟨literals, hliterals, ?_⟩
    simp only [writePieces, hx .inlined text bound, hwritten]
    simp [String.append_assoc]

lemma describes_parameter (c : Constant) {ps : List Piece} {t : Template}
    (ht : st.Describes t ps) :
    st.Describes (.afterValue c.parameter t) (.parameter c :: ps) where
  -- with a mark in the place of the value, and then with its literal, which may not exist
  binding {form mark} h text bound := by
    have hpiece : (st.spelling form).writePiece ⟨text, bound, none⟩ (.parameter c) =
        ⟨text ++ mark (bound.length + 1) c.parameter, bound ++ [c.parameter], none⟩ := by
      rw [writePiece, h]
      rfl
    simp only [writePieces, hpiece, ht.binding h]
    simp [String.append_assoc]
  inlining {text bound} h := by
    have hpiece : (st.spelling .inlined).writePiece ⟨text, bound, none⟩ (.parameter c) =
        (⟨text, bound, none⟩ : Written).addText (st.dialect.literal c.type c.value) := rfl
    cases hc : st.dialect.literal c.type c.value with
    | error e =>
      simp only [writePieces, hpiece, hc, Written.addText] at h
      cases h
    | ok literal =>
      simp only [writePieces, hpiece, hc, Written.addText, Written.add] at h ⊢
      obtain ⟨literals, hliterals, hwritten⟩ := ht.inlining h
      refine ⟨literal :: literals, ?_, ?_⟩
      · rw [Template.values_afterValue, List.mapM_cons, hliterals]
        change (st.dialect.literal c.type c.value >>= _) = _
        rw [hc]
        rfl
      · rw [hwritten, Template.fill_afterValue, String.append_assoc]

/-- What follows the manner `bound` is described by a template. -/
lemma exists_describes : ∀ {ps : List Piece}, (∀ p ∈ ps, p.Follows .bound) →
    ∃ t, st.Describes t ps
  | [], _ => ⟨_, describes_nil⟩
  | p :: ps, h => by
    obtain ⟨hp, hps⟩ := List.forall_mem_cons.mp h
    obtain ⟨t, ht⟩ := exists_describes hps
    by_cases hc : ∃ c, p = .parameter c
    · obtain ⟨c, rfl⟩ := hc
      exact ⟨_, describes_parameter c ht⟩
    · obtain ⟨x, hx⟩ := st.writePiece_fixed hp fun c h => hc ⟨c, h⟩
      exact ⟨_, describes_fixed ht hx⟩

/-! ### Drafts -/

/-- A draft is written without an error if it has none and its pieces are. -/
lemma write_eq {d : Draft} {r w : Written} (hd : d.error? = none) (hr : r.error? = none)
    (hw : st.writePieces w d.pieces = r) : st.write w d = r := by
  rw [write, hw, hd]
  cases r
  simp_all

/-- A draft that binds values or ends statements, but not both, has a template that does not depend
on what is bound already, nor on the form of placeholders. -/
lemma exists_template {d : Draft} (hd : d.Follows .procedural ∨ d.Follows .bound) :
    ∃ t : Template,
      (∀ {form : ParameterStyle} {mark : Nat → Parameter → String},
        (st.spelling form).Binds mark → ∀ bound, (st.spelling form).write (.start bound) d =
          ⟨t.fill (t.marks mark bound.length), bound ++ t.values, d.error?⟩) ∧
      ∀ bound, ((st.spelling .inlined).write (.start bound) d).error? = none →
        ∃ literals, t.values.mapM (fun p => st.dialect.literal p.type p.value) = .ok literals ∧
          (st.spelling .inlined).write (.start bound) d = ⟨t.fill literals, bound, none⟩ := by
  obtain hprocedural | hbound := hd
  · obtain ⟨f, hf⟩ := st.writePieces_closed d.pieces (hprocedural.allClosed (by decide))
    refine ⟨.fixed (f ""), fun _ bound => ?_, fun bound h => ⟨[], rfl, ?_⟩⟩
    · rw [write, Written.start, hf]
      simp
    · refine write_eq (Option.or_eq_none_iff.mp h).2 rfl ?_
      simpa [Written.start] using hf .inlined "" bound
  · obtain ⟨t, ht⟩ : ∃ t, st.Describes t d.pieces := exists_describes hbound
    refine ⟨t, fun hmark bound => ?_, fun bound h => ?_⟩
    · rw [write, Written.start, ht.binding hmark]
      simp
    · obtain ⟨hpieces, herror⟩ := Option.or_eq_none_iff.mp h
      obtain ⟨literals, hliterals, hwritten⟩ := ht.inlining hpieces
      refine ⟨literals, hliterals, write_eq herror rfl ?_⟩
      simpa [Written.start] using hwritten

/-- A draft that binds values or ends statements, but not both, in three spellings. -/
lemma write_spelling_of_follows {d : Draft} {bound : List Parameter}
    (hd : d.Follows .procedural ∨ d.Follows .bound)
    (h : ((st.spelling .inlined).write (.start bound) d).error? = none) :
    ∃ (t : Template) (literals : List String),
      t.values.mapM (fun p => st.dialect.literal p.type p.value) = .ok literals ∧
      (st.spelling .inlined).write (.start bound) d = ⟨t.fill literals, bound, none⟩ ∧
      ∀ {form : ParameterStyle} {mark : Nat → Parameter → String},
        (st.spelling form).Binds mark →
        (st.spelling form).write (.start bound) d =
          ⟨t.fill (t.marks mark bound.length), bound ++ t.values, none⟩ := by
  have herror : d.error? = none := (Option.or_eq_none_iff.mp h).2
  obtain ⟨t, hmarked, hinlined⟩ := exists_template hd
  obtain ⟨literals, hliterals, hwritten⟩ := hinlined bound h
  exact ⟨t, literals, hliterals, hwritten, fun hmark => herror ▸ hmarked hmark bound⟩

end Style

/-! ### Statements -/

/-- The same renderer with another form of bound values. -/
def Renderer.spelling (r : Renderer) (form : ParameterStyle) : Renderer :=
  { r with settings := { r.settings with parameters := form } }

lemma Renderer.write_spelling_eq (r : Renderer) (form : ParameterStyle) (bound : List Parameter)
    {stmt : Statement} (h : stmt.isExecutable = true) :
    (r.spelling form).write bound stmt =
      (r.style.spelling form).write (.start bound) (Draft.ofStatement r.target stmt) := by
  rw [Renderer.write, if_pos h]
  rfl

/-- **One statement in three spellings.** A statement that can be written with literals binds
nothing then; with placeholders it can be written as well, and the values are bound after those
that are bound already. The texts fill the same template: with the literals of the values, or with
their placeholders, which are numbered on from the values bound already. -/
theorem Renderer.write_spelling (r : Renderer) (bound : List Parameter) (stmt : Statement)
    (h : ((r.spelling .inlined).write bound stmt).error? = none) :
    ∃ (t : Template) (literals : List String),
      t.values.mapM (fun p => r.dialect.literal p.type p.value) = .ok literals ∧
      (r.spelling .inlined).write bound stmt = ⟨t.fill literals, bound, none⟩ ∧
      (r.spelling .indexed).write bound stmt =
        ⟨t.fill (t.marks (fun n _ => r.dialect.placeholder n) bound.length),
          bound ++ t.values, none⟩ ∧
      (r.spelling .named).write bound stmt =
        ⟨t.fill (t.marks (fun n p => r.dialect.namedPlaceholder n p.name?) bound.length),
          bound ++ t.values, none⟩ := by
  cases hexec : stmt.isExecutable with
  | false =>
    have hstart (form : ParameterStyle) : (r.spelling form).write bound stmt = .start bound := by
      rw [Renderer.write, hexec]
      rfl
    exact ⟨.fixed "", [], rfl, by simp [hstart, Written.start]⟩
  | true =>
    simp only [r.write_spelling_eq _ bound hexec] at h ⊢
    have hmanner : (Draft.ofStatement r.target stmt).FollowsAsStatement { target := r.target } :=
      (Writers.level_settled stmt.rank).statement _ stmt
    obtain ⟨t, literals, hliterals, hinlined, hmarked⟩ :=
      Style.write_spelling_of_follows (hmanner.imp id And.right) h
    exact ⟨t, literals, hliterals, hinlined, hmarked r.style.binds_indexed,
      hmarked r.style.binds_named⟩

/-- A query of one value, with another value bound before. -/
theorem Renderer.write_spelling_number :
    let r : Renderer := { dialect := .postgres }
    let null : Parameter := ⟨.null, .unknown, none⟩
    let five : Parameter := ⟨.ofNat 5, .integer, none⟩
    let stmt : Statement := .select { fields := [⟨.bind (.ofNat 5), none⟩] }
    ((r.spelling .inlined).write [null] stmt).error? = none ∧
      ∃ (t : Template) (literals : List String),
        t.values = [five] ∧ t.fill literals = "SELECT 5" ∧
        t.fill (t.marks (fun n _ => r.dialect.placeholder n) 1) = "SELECT $2" ∧
        t.fill (t.marks (fun n p => r.dialect.namedPlaceholder n p.name?) 1) = "SELECT $p2" ∧
        (r.spelling .inlined).write [null] stmt = ⟨t.fill literals, [null], none⟩ ∧
        (r.spelling .indexed).write [null] stmt =
          ⟨t.fill (t.marks (fun n _ => r.dialect.placeholder n) 1), [null, five], none⟩ ∧
        (r.spelling .named).write [null] stmt =
          ⟨t.fill (t.marks (fun n p => r.dialect.namedPlaceholder n p.name?) 1), [null, five],
            none⟩ := by
  intro r null five stmt
  have hinlined : (r.spelling .inlined).write [null] stmt = ⟨"SELECT 5", [null], none⟩ := by
    cbv
  have hindexed : (r.spelling .indexed).write [null] stmt = ⟨"SELECT $2", [null, five], none⟩ := by
    cbv
  have hnamed : (r.spelling .named).write [null] stmt = ⟨"SELECT $p2", [null, five], none⟩ := by
    cbv
  have hok : ((r.spelling .inlined).write [null] stmt).error? = none :=
    congrArg Written.error? hinlined
  obtain ⟨t, literals, -, ht, hmarks, hnames⟩ := Renderer.write_spelling r [null] stmt hok
  have hvalues : t.values = [five] :=
    List.append_cancel_left (congrArg Written.parameters (hmarks.symm.trans hindexed))
  refine ⟨hok, t, literals, hvalues, congrArg Written.text (ht.symm.trans hinlined),
    congrArg Written.text (hmarks.symm.trans hindexed),
    congrArg Written.text (hnames.symm.trans hnamed), ht, ?_, ?_⟩
  · rw [hmarks, hvalues]
    rfl
  · rw [hnames, hvalues]
    rfl

end Polysql

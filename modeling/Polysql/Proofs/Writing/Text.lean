import Polysql.Proofs.Outcome
import Polysql.Proofs.Place.Move
import Polysql.Proofs.Writing.Spelling
/-!
The text of a draft on its own (`Style.text`). Drafts that bind nothing and end no statement are
written alike behind any text (`Style.Fixed`), so the text of several of them is put together from
theirs; drafts that end statements are written alike behind any text that does not end one itself
(`Style.Steady`). With literals for the values, a draft is written as the one whose values are
written out (`Style.run_writtenOut`).
-/

namespace Polysql

/-- What has been written, unless an error stopped it. -/
def Written.outcome (w : Written) : Except Error Written :=
  match w.error? with
  | some e => .error e
  | none => .ok w

/-- What has been written, with further text and further values that are bound. -/
def Written.append (r : Written) (added : String × List Parameter) : Written :=
  ⟨r.text ++ added.1, r.parameters ++ added.2, none⟩

lemma Written.append_nothing (r : Written) (h : r.error? = none) : r.append ("", []) = r := by
  obtain ⟨text, parameters, error?⟩ := r
  cases h
  rw [append, String.append_empty, List.append_nil]

lemma Written.append_append (r : Written) (a b : String × List Parameter) :
    (r.append a).append b = r.append (a.1 ++ b.1, a.2 ++ b.2) := by
  simp only [append, String.append_assoc, List.append_assoc]

/-- A text ends with a semicolon. -/
def endsStatement (s : String) : Bool :=
  s.toList.getLast? == some ';'

/-- A text with its end: a semicolon, unless it has one, and a blank. -/
def terminated (s : String) : String :=
  if endsStatement s then s ++ " " else s ++ "; "

namespace Style

variable (st : Style)

/-- A draft written after what has been written, unless it fails. -/
def run (r : Written) (d : Draft) : Except Error Written :=
  (st.write r d).outcome

/-- The text that a draft is written as on its own. -/
def text (d : Draft) : Except Error String :=
  (st.run (.start []) d).map Written.text

/-! ### One draft after another -/

lemma run_eq (r : Written) (d : Draft) :
    st.run r d = match (st.writePieces r d.pieces).error?.or d.error? with
      | some e => .error e
      | none => .ok (st.writePieces r d.pieces) := by
  rw [run, write, Written.outcome]
  obtain ⟨text, parameters, error?⟩ := st.writePieces r d.pieces
  cases error? <;> cases d.error? <;> rfl

lemma error?_of_run {r w : Written} {d : Draft} (h : st.run r d = .ok w) : w.error? = none := by
  rw [run, Written.outcome] at h
  split at h
  next => cases h
  next hnone =>
    cases h
    exact hnone

lemma writePieces_append (ps qs : List Piece) {r : Written} (hr : r.error? = none) :
    st.writePieces r (ps ++ qs) =
      if (st.writePieces r ps).error? = none then st.writePieces (st.writePieces r ps) qs
      else st.writePieces r ps := by
  induction ps generalizing r with
  | nil => rw [writePieces, if_pos hr, List.nil_append]
  | cons p ps ih =>
    rw [List.cons_append, writePieces, writePieces]
    cases hp : (st.writePiece r p).error? with
    | none => exact ih hp
    | some e => simp [hp]

/-- The second draft goes on where the first one ends, unless that fails. -/
lemma run_append (a b : Draft) {r : Written} (hr : r.error? = none) :
    st.run r (a ++ b) = (st.run r a).bind fun w => st.run w b := by
  obtain ⟨ps, _ | e⟩ := a
  · change st.run r ⟨ps ++ b.pieces, b.error?⟩ = _
    rw [run_eq, run_eq, st.writePieces_append ps b.pieces hr]
    cases hw : (st.writePieces r ps).error? with
    | none =>
      rw [if_pos rfl]
      exact (st.run_eq _ b).symm
    | some e =>
      rw [if_neg nofun, hw]
      rfl
  · change st.run r ⟨ps, some e⟩ = _
    rw [run_eq]
    cases (st.writePieces r ps).error? <;> rfl

lemma run_ofPiece (p : Piece) (r : Written) :
    st.run r (.ofPiece p) = (st.writePiece r p).outcome := by
  rw [run_eq, Draft.ofPiece, writePieces, Written.outcome]
  cases hp : (st.writePiece r p).error? <;> simp [writePieces, hp]

lemma run_text (t : String) {r : Written} (hr : r.error? = none) :
    st.run r (.text t) = .ok (r.add t) := by
  rw [Draft.text, run_ofPiece, writePiece, Written.outcome, Written.add, hr]

lemma run_fail (e : Error) {r : Written} (hr : r.error? = none) :
    st.run r (.fail e) = .error e := by
  rw [run_eq, Draft.fail, writePieces, hr]
  rfl

lemma run_empty {r : Written} (hr : r.error? = none) : st.run r .empty = .ok r := by
  rw [run_eq, Draft.empty, writePieces, hr]
  rfl

/-- How a statement ends depends on the text before. -/
lemma run_terminator {r : Written} (hr : r.error? = none) :
    st.run r (.ofPiece .terminator) = .ok { r with text := terminated r.text } := by
  obtain ⟨text, parameters, error?⟩ := r
  cases hr
  rw [run_ofPiece, writePiece, Written.terminate, terminated, endsStatement]
  by_cases hend : text.toList.getLast? = some ';'
  · rw [if_pos hend, if_pos (beq_iff_eq.mpr hend)]
    rfl
  · rw [if_neg hend, if_neg (fun h => hend (beq_iff_eq.mp h))]
    rfl

/-! ### Text on its own -/

@[simp] lemma text_text (t : String) : st.text (.text t) = .ok t := by
  rw [text, st.run_text t rfl]
  change Except.ok ("" ++ t) = _
  rw [String.empty_append]

@[simp] lemma text_fail (e : Error) : st.text (.fail e) = .error e := by
  rw [text, st.run_fail e rfl]
  rfl

@[simp] lemma text_empty : st.text .empty = .ok "" := by
  rw [text, st.run_empty rfl]
  rfl

/-- What is embedded is written on its own before. -/
@[simp] lemma text_embed (wrapping : Wrapping) (d : Draft) :
    st.text (.embed wrapping d) = (st.text d).map wrapping.around := by
  rw [text, text, run_eq, run_eq, Draft.embed, writePieces, writePiece,
    show (Written.start []).parameters = [] from rfl]
  obtain ⟨text, parameters, error?⟩ := st.writePieces (.start []) d.pieces
  have hstart (t : String) : (Written.start []).text ++ t = t := String.empty_append
  cases error? <;> cases d.error? <;> simp [hstart, writePieces]

/-- The draft is written alike behind any text. -/
def Fixed (d : Draft) : Prop :=
  ∀ r : Written, r.error? = none → st.run r d = (st.text d).map r.add

/-- The draft is written alike behind any text that does not end a statement. -/
def Steady (d : Draft) : Prop :=
  ∀ r : Written, r.error? = none → endsStatement r.text = false →
    st.run r d = (st.text d).map r.add

variable {st}

lemma Fixed.steady {d : Draft} (h : st.Fixed d) : st.Steady d :=
  fun r hr _ => h r hr

/-- The text of a draft behind another one. -/
lemma text_append_of_run {a b : Draft}
    (h : ∀ w, st.run (.start []) a = .ok w → st.run w b = (st.text b).map w.add) :
    st.text (a ++ b) = (st.text a).bind fun x => (st.text b).map (x ++ ·) := by
  rw [text, st.run_append a b rfl]
  cases ha : st.run (.start []) a with
  | error e =>
    rw [text, ha]
    rfl
  | ok w =>
    change (st.run w b).map Written.text = _
    rw [h w ha, show st.text a = .ok w.text from congrArg (Except.map Written.text) ha]
    cases st.text b <;> rfl

lemma text_append (a : Draft) {b : Draft} (hb : st.Fixed b) :
    st.text (a ++ b) = (st.text a).bind fun x => (st.text b).map (x ++ ·) :=
  text_append_of_run fun w hw => hb w (st.error?_of_run hw)

lemma endsStatement_append (s t : String) (h : endsStatement s = false) :
    endsStatement (s ++ t) = endsStatement t := by
  rw [endsStatement] at h
  rw [endsStatement, endsStatement, String.toList_append, List.getLast?_append]
  cases t.toList.getLast? with
  | none => exact h
  | some c => rfl

/-- A text that ends with a blank ends no statement. -/
lemma endsStatement_append_of_blank (s : String) {t : String}
    (h : t.toList.getLast? = some ' ') : endsStatement (s ++ t) = false := by
  rw [endsStatement, String.toList_append, List.getLast?_append, h, Option.some_or]
  decide

lemma endsStatement_terminated (s : String) : endsStatement (terminated s) = false := by
  rw [terminated]
  split <;> exact endsStatement_append_of_blank s (by decide)

lemma terminated_append (s t : String) (h : endsStatement s = false) :
    terminated (s ++ t) = s ++ terminated t := by
  rw [terminated, terminated, endsStatement_append s t h]
  split <;> rw [String.append_assoc]

/-- The text of a draft with the end of a statement. -/
lemma text_append_terminator (d : Draft) :
    st.text (d ++ .ofPiece .terminator) = (st.text d).map terminated := by
  rw [text, st.run_append _ _ rfl, text]
  cases hd : st.run (.start []) d with
  | error e => rfl
  | ok w =>
    change (st.run w (.ofPiece .terminator)).map Written.text = _
    rw [st.run_terminator (st.error?_of_run hd)]
    rfl

/-- A draft that is steady stays so with the end of a statement. -/
lemma Steady.append_terminator {d : Draft} (h : st.Steady d) :
    st.Steady (d ++ .ofPiece .terminator) := fun r hr hend => by
  rw [text_append_terminator, st.run_append _ _ hr, h r hr hend]
  cases st.text d with
  | error e => rfl
  | ok t =>
    change st.run (r.add t) (.ofPiece .terminator) = .ok (r.add (terminated t))
    rw [st.run_terminator (show (r.add t).error? = none from hr), Written.add, Written.add,
      terminated_append _ _ hend]

/-- A draft behind another one, both of which are written as on their own. -/
lemma run_append_eq {a b : Draft} {r : Written} (hr : r.error? = none)
    (ha : st.run r a = (st.text a).map r.add)
    (hb : ∀ x, st.text a = .ok x → st.run (r.add x) b = (st.text b).map (r.add x).add) :
    st.run r (a ++ b) = ((st.text a).bind fun x => (st.text b).map (x ++ ·)).map r.add := by
  rw [st.run_append a b hr, ha]
  cases hx : st.text a with
  | error e => rfl
  | ok x =>
    change st.run (r.add x) b = ((st.text b).map (x ++ ·)).map r.add
    rw [hb x hx]
    cases st.text b with
    | error e => rfl
    | ok y =>
      change Except.ok ({ r with text := r.text ++ x ++ y } : Written) = _
      rw [String.append_assoc]
      rfl

lemma Fixed.append {a b : Draft} (ha : st.Fixed a) (hb : st.Fixed b) : st.Fixed (a ++ b) :=
  fun r hr => by
    rw [text_append a hb]
    exact run_append_eq hr (ha r hr) fun x _ => hb (r.add x) hr

/-- What is fixed can follow any steady draft. -/
lemma Steady.append_fixed {a b : Draft} (ha : st.Steady a) (hb : st.Fixed b) :
    st.Steady (a ++ b) := fun r hr hend => by
  rw [text_append a hb]
  exact run_append_eq hr (ha r hr hend) fun x _ => hb (r.add x) hr

/-- Steady drafts one after the other, the first of which does not end a statement. -/
lemma Steady.append {a b : Draft} (ha : st.Steady a) (hb : st.Steady b)
    (hend : ∀ x, st.text a = .ok x → endsStatement x = false) :
    st.Steady (a ++ b) ∧
      st.text (a ++ b) = (st.text a).bind fun x => (st.text b).map (x ++ ·) := by
  have htext : st.text (a ++ b) = (st.text a).bind fun x => (st.text b).map (x ++ ·) :=
    text_append_of_run fun w hw =>
      hb w (st.error?_of_run hw) (hend w.text (congrArg (Except.map Written.text) hw))
  refine ⟨fun r hr hrend => ?_, htext⟩
  rw [htext]
  exact run_append_eq hr (ha r hr hrend) fun x hx =>
    hb (r.add x) hr ((endsStatement_append _ _ hrend).trans (hend x hx))

/-! ### Drafts that bind nothing -/

lemma writePieces_written {ps : List Piece} (h : ∀ p ∈ ps, p.Follows .written) :
    ∃ x : String, ∀ (form : ParameterStyle) (r : Written), r.error? = none →
      (st.spelling form).writePieces r ps = r.add x := by
  induction ps with
  | nil =>
    exact ⟨"", fun _ r hr => by simp [writePieces, Written.add]⟩
  | cons p ps ih =>
    obtain ⟨hp, hps⟩ := List.forall_mem_cons.mp h
    obtain ⟨x, hx⟩ := st.writePiece_fixed (hp.of_written .bound) (fun c hc => by
      rw [hc] at hp
      cases hp)
    obtain ⟨y, hy⟩ := ih hps
    refine ⟨x ++ y, fun form r hr => ?_⟩
    obtain ⟨text, bound, error?⟩ := r
    cases hr
    rw [writePieces, hx form text bound]
    change (st.spelling form).writePieces ⟨text ++ x, bound, none⟩ ps = _
    rw [hy form ⟨text ++ x, bound, none⟩ rfl, Written.add, Written.add, String.append_assoc]

/-- What binds nothing and ends no statement is written alike behind any text, and whatever the form
of bound values is. -/
lemma fixed_of_written {d : Draft} (h : d.Follows .written) (form : ParameterStyle) :
    (st.spelling form).Fixed d := by
  obtain ⟨x, hx⟩ := st.writePieces_written h
  have hrun (r : Written) (hr : r.error? = none) : (st.spelling form).run r d =
      match d.error? with
      | some e => .error e
      | none => .ok (r.add x) := by
    rw [run_eq, hx form r hr, show (r.add x).error? = none from hr, Option.none_or]
  intro r hr
  rw [hrun r hr, text, hrun _ rfl]
  cases d.error? with
  | some e => rfl
  | none =>
    change _ = Except.ok (r.add ("" ++ x))
    rw [String.empty_append]

/-- The form of bound values makes no difference to what binds nothing. -/
lemma text_spelling {d : Draft} (h : allClosed d.pieces) (form form' : ParameterStyle) :
    (st.spelling form).run (.start []) d = (st.spelling form').run (.start []) d := by
  obtain ⟨f, hf⟩ := st.writePieces_closed d.pieces h
  rw [run_eq, run_eq, Written.start, hf form "" [], hf form' "" []]

variable (st) in
/-- What binds nothing is written alike whatever is bound already, up to the error that stops it. -/
lemma write_of_closed {d : Draft} (h : allClosed d.pieces) :
    ∃ text : String, ∀ bound, st.write (.start bound) d = ⟨text, bound, d.error?⟩ := by
  obtain ⟨f, hf⟩ := st.writePieces_closed d.pieces h
  have hst : st.spelling st.settings.parameters = st := rfl
  refine ⟨f "", fun bound => ?_⟩
  have hpieces := hf st.settings.parameters "" bound
  rw [hst] at hpieces
  rw [write, Written.start, hpieces, Option.none_or]

/-- What binds nothing leaves no values bound. -/
lemma parameters_of_closed {d : Draft} (h : allClosed d.pieces) {w : Written}
    (hw : st.run (.start []) d = .ok w) : w.parameters = [] := by
  obtain ⟨text, htext⟩ := st.write_of_closed h
  rw [run, htext, Written.outcome] at hw
  split at hw
  next => cases hw
  next =>
    cases hw
    rfl

/-- A piece that binds nothing is written behind a text that ends no statement as it is without
that text. -/
lemma writePiece_behind {p : Piece} (hp : p.isClosed) {a : String} (ha : endsStatement a = false)
    (t : String) : ∃ t', ∀ bound : List Parameter,
      st.writePiece ⟨t, bound, none⟩ p = ⟨t', bound, none⟩ ∧
        st.writePiece ⟨a ++ t, bound, none⟩ p = ⟨a ++ t', bound, none⟩ := by
  -- only the end of a statement looks back at the text, and it looks at its last characters
  by_cases hend : p = .terminator
  · subst hend
    refine ⟨terminated t, fun bound => ?_⟩
    have hwritten (s : String) :
        st.writePiece ⟨s, bound, none⟩ .terminator = ⟨terminated s, bound, none⟩ := by
      have hrun := st.run_terminator (r := ⟨s, bound, none⟩) rfl
      rw [run_ofPiece, Written.outcome] at hrun
      split at hrun
      next => cases hrun
      next => exact Except.ok.inj hrun
    exact ⟨hwritten t, (hwritten (a ++ t)).trans (by rw [terminated_append a t ha])⟩
  · have hfollows : p.Follows .bound := by
      cases p <;> simp_all [Piece.Follows, Piece.isClosed]
    obtain ⟨x, hx⟩ := st.writePiece_fixed hfollows fun c hc => by
      rw [hc] at hp
      cases hp
    refine ⟨t ++ x, fun bound => ⟨hx st.settings.parameters t bound, ?_⟩⟩
    exact (hx st.settings.parameters (a ++ t) bound).trans (by rw [String.append_assoc])

lemma writePieces_behind {a : String} (ha : endsStatement a = false) {ps : List Piece}
    (hps : ∀ p ∈ ps, p.isClosed) (t : String) : ∃ t', ∀ bound : List Parameter,
      st.writePieces ⟨t, bound, none⟩ ps = ⟨t', bound, none⟩ ∧
        st.writePieces ⟨a ++ t, bound, none⟩ ps = ⟨a ++ t', bound, none⟩ := by
  induction ps generalizing t with
  | nil => exact ⟨t, fun bound => ⟨rfl, rfl⟩⟩
  | cons p ps ih =>
    obtain ⟨hp, hps⟩ := List.forall_mem_cons.mp hps
    obtain ⟨t₁, h₁⟩ := st.writePiece_behind hp ha t
    obtain ⟨t₂, h₂⟩ := ih hps t₁
    refine ⟨t₂, fun bound => ?_⟩
    rw [writePieces, writePieces, (h₁ bound).1, (h₁ bound).2]
    exact h₂ bound

/-- What binds nothing is steady, whatever statements end in it. -/
lemma steady_of_closed {d : Draft} (h : allClosed d.pieces) : st.Steady d := by
  rintro ⟨a, bound, _⟩ rfl ha
  obtain ⟨t, ht⟩ := st.writePieces_behind ha (allClosed_iff.mp h) ""
  have hbehind := (ht bound).2
  rw [String.append_empty] at hbehind
  rw [text, run_eq, run_eq, Written.start, (ht []).1, hbehind]
  cases d.error? <;> rfl

lemma fixed_text (t : String) : st.Fixed (.text t) := fun r hr => by
  rw [run_text _ t hr, text_text]
  rfl

/-- Fixed text behind a draft. -/
lemma text_append_text (a : Draft) (t : String) :
    st.text (a ++ .text t) = (st.text a).map (· ++ t) := by
  rw [text_append a (fixed_text t), text_text]
  cases st.text a <;> rfl

/-- Fixed text in front of a draft. -/
lemma text_text_append (t : String) {b : Draft} (hb : st.Fixed b) :
    st.text (.text t ++ b) = (st.text b).map (t ++ ·) := by
  rw [text_append _ hb, text_text]
  rfl

/-- What is embedded binds nothing and ends nothing. -/
lemma fixed_embed {m : Manner} (hm : m ≠ .bound) (wrapping : Wrapping) {d : Draft}
    (h : d.Follows m) : st.Fixed (.embed wrapping d) :=
  fixed_of_written (Draft.follows_embed hm wrapping h) st.settings.parameters

/-- Fixed text around a draft. -/
lemma Steady.between {d : Draft} (h : st.Steady d) {before : String}
    (hbefore : endsStatement before = false) (after : String) :
    st.Steady (.text before ++ d ++ .text after) ∧
      st.text (.text before ++ d ++ .text after) =
        (st.text d).map fun s => before ++ s ++ after := by
  have hend (x : String) (hx : st.text (.text before) = .ok x) : endsStatement x = false := by
    rw [text_text] at hx
    cases hx
    exact hbefore
  obtain ⟨hsteady, htext⟩ := (fixed_text before).steady.append h hend
  refine ⟨hsteady.append_fixed (fixed_text after), ?_⟩
  rw [text_append_text, htext, text_text]
  cases st.text d <;> rfl

/-! ### Values bound before -/

lemma run_ofPiece_added {p : Piece} {m : Manner} (hm : m ≠ .procedural) (h : p.Follows m)
    {r r' : Written} (hr : r.error? = none) (hr' : r'.error? = none)
    (hlength : r.parameters.length = r'.parameters.length) :
    ∃ added : Except Error (String × List Parameter),
      st.run r (.ofPiece p) = added.map r.append ∧
        st.run r' (.ofPiece p) = added.map r'.append := by
  obtain ⟨text, bound, _⟩ := r
  obtain ⟨text', bound', _⟩ := r'
  cases hr
  cases hr'
  rw [run_ofPiece, run_ofPiece]
  -- a bound value is numbered on from those before; all other pieces are the same text anywhere
  by_cases hc : ∃ c, p = .parameter c
  · obtain ⟨c, rfl⟩ := hc
    rw [writePiece, writePiece, writeConstant, writeConstant]
    cases st.settings.parameters with
    | inlined =>
      cases st.dialect.literal c.type c.value with
      | error e => exact ⟨.error e, rfl, rfl⟩
      | ok t =>
        refine ⟨.ok (t, []), ?_, ?_⟩
        · simp [Written.outcome, Written.addText, Written.add, Written.append]
        · simp [Written.outcome, Written.addText, Written.add, Written.append]
    | indexed => exact ⟨.ok (st.dialect.placeholder (bound.length + 1), [c.parameter]), rfl,
        by rw [show bound.length = bound'.length from hlength]; rfl⟩
    | named => exact ⟨.ok (st.dialect.namedPlaceholder (bound.length + 1) c.name?, [c.parameter]),
        rfl, by rw [show bound.length = bound'.length from hlength]; rfl⟩
  · have hbound : p.Follows .bound := by
      cases p <;> simp_all [Piece.Follows]
    obtain ⟨x, hx⟩ := st.writePiece_fixed hbound fun c h => hc ⟨c, h⟩
    have hwritten (text : String) (bound : List Parameter) :
        (st.writePiece ⟨text, bound, none⟩ p).outcome =
          .ok (Written.append ⟨text, bound, none⟩ (x, [])) := by
      rw [show st.writePiece ⟨text, bound, none⟩ p = _ from hx st.settings.parameters text bound]
      simp [Written.outcome, Written.append]
    exact ⟨.ok (x, []), hwritten text bound, hwritten text' bound'⟩

/-- What is written does not depend on what has been written before, but for the number of values
that are bound already. -/
lemma run_append_added {d : Draft} {m : Manner} (hm : m ≠ .procedural) (h : d.Follows m)
    {r r' : Written} (hr : r.error? = none) (hr' : r'.error? = none)
    (hlength : r.parameters.length = r'.parameters.length) :
    ∃ added : Except Error (String × List Parameter),
      st.run r d = added.map r.append ∧ st.run r' d = added.map r'.append := by
  obtain ⟨ps, e?⟩ := d
  -- what has been added so far is the same for both, so the rest begins alike
  induction ps generalizing r r' with
  | nil =>
    cases e? with
    | none =>
      refine ⟨.ok ("", []), (st.run_empty hr).trans ?_, (st.run_empty hr').trans ?_⟩
      · exact congrArg _ (r.append_nothing hr).symm
      · exact congrArg _ (r'.append_nothing hr').symm
    | some e => exact ⟨.error e, st.run_fail e hr, st.run_fail e hr'⟩
  | cons p ps ih =>
    obtain ⟨hp, hps⟩ := List.forall_mem_cons.mp h
    have hsplit : (⟨p :: ps, e?⟩ : Draft) = .ofPiece p ++ ⟨ps, e?⟩ := rfl
    obtain ⟨first, hfirst, hfirst'⟩ := st.run_ofPiece_added hm hp hr hr' hlength
    rw [hsplit, st.run_append _ _ hr, st.run_append _ _ hr', hfirst, hfirst']
    cases first with
    | error e => exact ⟨.error e, rfl, rfl⟩
    | ok a =>
      have hlengths : (r.append a).parameters.length = (r'.append a).parameters.length := by
        simp only [Written.append, List.length_append, hlength]
      obtain ⟨rest, hrest, hrest'⟩ := ih rfl rfl hlengths hps
      refine ⟨rest.map fun b => (a.1 ++ b.1, a.2 ++ b.2), ?_, ?_⟩
      · exact hrest.trans (by cases rest <;> simp [Written.append_append])
      · exact hrest'.trans (by cases rest <;> simp [Written.append_append])

/-! ### Names -/

/-- The text of a name. -/
def name (st : Style) (n : Name) : String :=
  Text.joined "." (n.parts.map fun p => p.written st.settings st.dialect.family)

lemma fixed_qualified (n : Name) : st.Fixed (.qualified n) :=
  fixed_of_written (by simp) st.settings.parameters

lemma text_qualified (n : Name) : st.text (.qualified n) = .ok (st.name n) := by
  obtain ⟨parts⟩ := n
  have hpiece (p : NamePart) :
      st.text (.ofPiece (.name p)) = .ok (p.written st.settings st.dialect.family) := by
    rw [text, run_ofPiece]
    change Except.ok ("" ++ _) = _
    rw [String.empty_append]
  induction parts with
  | nil => exact st.text_empty
  | cons p ps ih =>
    cases ps with
    | nil => exact hpiece p
    | cons q ps =>
      have hrest : st.Fixed (.qualified ⟨q :: ps⟩) := fixed_qualified ⟨q :: ps⟩
      -- the parts with points between them, one part at a time
      change st.text (.ofPiece (.name p) ++ .text "." ++ .qualified ⟨q :: ps⟩) = _
      rw [text_append _ hrest, text_append_text, hpiece, ih]
      exact congrArg Except.ok String.intercalate_cons_cons.symm

/-! ### Values as literals -/

/-- With literals for the values, a draft is written as the one whose values are written out. -/
lemma run_writtenOut (d : Draft) {r : Written} (hr : r.error? = none) :
    (st.spelling .inlined).run r (d.writtenOut st.dialect) = (st.spelling .inlined).run r d := by
  obtain ⟨ps, e?⟩ := d
  induction ps generalizing r with
  | nil => rfl
  | cons p ps ih =>
    have hsplit : (⟨p :: ps, e?⟩ : Draft) = .ofPiece p ++ ⟨ps, e?⟩ := rfl
    -- a value that is bound is replaced by its literal, and other pieces by themselves
    have hpiece : (st.spelling .inlined).run r (p.writtenOut st.dialect) =
        (st.spelling .inlined).run r (.ofPiece p) := by
      cases p with
      | parameter c =>
        have hconstant : (st.spelling .inlined).writePiece r (.parameter c) =
            r.addText (st.dialect.literal c.type c.value) := rfl
        rw [run_ofPiece, hconstant, Piece.writtenOut, Draft.ofLiteral]
        cases st.dialect.literal c.type c.value with
        | error e => exact run_fail _ e hr
        | ok t => exact run_ofPiece _ (.literal c t) r
      | _ => rfl
    rw [hsplit, Draft.writtenOut_append, run_append _ _ _ hr, run_append _ _ _ hr,
      Draft.writtenOut_ofPiece, hpiece]
    cases hw : (st.spelling .inlined).run r (.ofPiece p) with
    | error e => rfl
    | ok w => exact ih (error?_of_run _ hw)

end Style

/-! ### Statements -/

namespace Renderer

variable (r : Renderer) {stmt : Statement}

/-- What a statement that does something is rendered as. -/
lemma render_eq (h : stmt.isExecutable = true) :
    r.render stmt = (r.style.run (.start []) (Draft.ofStatement r.target stmt)).map
      fun w => ⟨w.text, w.parameters⟩ := by
  rw [render, write, if_pos h, Style.run, Written.outcome]
  cases (r.style.write (.start []) (Draft.ofStatement r.target stmt)).error? <;> rfl

/-- A statement that binds nothing is rendered as its text. -/
lemma render_of_closed (h : stmt.isExecutable = true)
    (hclosed : allClosed (Draft.ofStatement r.target stmt).pieces) :
    r.render stmt = (r.style.text (Draft.ofStatement r.target stmt)).map fun t => ⟨t, []⟩ := by
  rw [r.render_eq h, Style.text]
  cases hw : r.style.run (.start []) (Draft.ofStatement r.target stmt) with
  | error e => rfl
  | ok w =>
    change Except.ok (⟨w.text, w.parameters⟩ : Rendered) = .ok ⟨w.text, []⟩
    rw [Style.parameters_of_closed hclosed hw]

end Renderer

end Polysql

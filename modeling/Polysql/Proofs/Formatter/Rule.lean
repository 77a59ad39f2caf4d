import Polysql.Proofs.Formatter.State
/-!
Renderings that write what drafts say. A rendering at a place writes the draft that is made for the
place, takes over some joins, and leaves the formatter as it was otherwise (`Formatting.Yields`).
There is one rule for each way to put renderings together, and one for each way to change the place.

The rules are tagged for `grind`, which finds the way through a rendering that is put together like
its draft.
-/

namespace Polysql

/-! ### What writing adds -/

/-- Text and values are only added to what has been written. -/
def Written.Extends (r w : Written) : Prop :=
  ∃ (t : String) (ps : List Parameter), w.text = r.text ++ t ∧ w.parameters = r.parameters ++ ps

namespace Written

variable {r v w : Written}

lemma Extends.refl (r : Written) : r.Extends r :=
  ⟨"", [], String.append_empty.symm, (List.append_nil _).symm⟩

lemma Extends.trans (hrv : r.Extends v) (hvw : v.Extends w) : r.Extends w := by
  obtain ⟨t, ps, ht, hps⟩ := hrv
  obtain ⟨t', ps', ht', hps'⟩ := hvw
  exact ⟨t ++ t', ps ++ ps', by rw [ht', ht, String.append_assoc],
    by rw [hps', hps, List.append_assoc]⟩

lemma extends_add (r : Written) (s : String) : r.Extends (r.add s) :=
  ⟨s, [], rfl, (List.append_nil _).symm⟩

lemma extends_addText (r : Written) (s : Except Error String) : r.Extends (r.addText s) := by
  cases s with
  | ok s => exact r.extends_add s
  | error e => exact Extends.refl r

lemma extends_terminate (r : Written) : r.Extends r.terminate := by
  rw [terminate]
  split <;> exact r.extends_add _

end Written

namespace Style

variable (st : Style)

lemma extends_writeConstant (r : Written) (c : Constant) : r.Extends (st.writeConstant r c) := by
  rw [writeConstant]
  split
  · exact r.extends_addText _
  · exact ⟨_, _, rfl, rfl⟩
  · exact ⟨_, _, rfl, rfl⟩

mutual

lemma extends_writePiece (r : Written) : ∀ p : Piece, r.Extends (st.writePiece r p)
  | .text s => r.extends_add s
  | .name _ => r.extends_add _
  | .literal _ s => r.extends_add s
  | .parameter c => st.extends_writeConstant r c
  | .clause _ => r.extends_add _
  | .terminator => r.extends_terminate
  | .embedded wrapping body => by
    obtain ⟨_, ps, _, hps⟩ := extends_writePieces (.start r.parameters) body
    exact ⟨wrapping.around (st.writePieces (.start r.parameters) body).text, ps, rfl, hps⟩

lemma extends_writePieces (r : Written) : ∀ ps : List Piece, r.Extends (st.writePieces r ps)
  | [] => Written.Extends.refl r
  | p :: ps => by
    have hp := extends_writePiece r p
    rw [writePieces]
    cases (st.writePiece r p).error? with
    | some e => exact hp
    | none => exact hp.trans (extends_writePieces _ ps)

end

lemma extends_write (r : Written) (d : Draft) : r.Extends (st.write r d) :=
  st.extends_writePieces r d.pieces

lemma write_text (s : String) {r : Written} (hr : r.error? = none) :
    st.write r (.text s) = ⟨r.text ++ s, r.parameters, none⟩ := by
  obtain ⟨t, ps, _⟩ := r
  cases hr
  rfl

/-- The second draft goes on where the first one ends, unless that fails. -/
lemma write_append (a b : Draft) {r : Written} (hr : r.error? = none) :
    st.write r (a ++ b) =
      if (st.write r a).error? = none then st.write (st.write r a) b else st.write r a := by
  obtain ⟨ps, _ | e⟩ := a
  · have ha : st.write r ⟨ps, none⟩ = st.writePieces r ps := by rw [write, Option.or_none]
    rw [ha]
    change st.write r ⟨ps ++ b.pieces, b.error?⟩ = _
    rw [write, st.writePieces_append ps b.pieces hr]
    cases hps : (st.writePieces r ps).error? with
    | none => rfl
    | some e =>
      rw [if_neg (Option.some_ne_none e), if_neg (Option.some_ne_none e), hps]
      change ({ st.writePieces r ps with error? := some e } : Written) = _
      rw [← hps]
  · change st.write r ⟨ps, some e⟩ = _
    rw [if_neg (by simp [write])]

/-- What is embedded is written on its own before. -/
lemma write_embed (wrapping : Wrapping) (d : Draft) (r : Written) :
    st.write r (.embed wrapping d) =
      let w := st.write (.start r.parameters) d
      { w with text := r.text ++ wrapping.around w.text } := by
  rw [write, Draft.embed, writePieces, writePiece]
  simp only [write]
  cases h : (st.writePieces (.start r.parameters) d.pieces).error? with
  | none => simp [writePieces]
  | some e => simp

end Style

/-! ### Outcomes -/

namespace Formatter

/-- What a rendering comes to: what has to be written is added to the formatter, or an error stops
it and leaves the formatter as it was found, with the values that are bound up to the error. -/
inductive Outcome (f : Formatter) (w : Written) (cs : List Condition) {α : Type} (a : α) :
    EStateM.Result Error Formatter α → Prop
  | ok (h : w.error? = none) : f.Outcome w cs a (.ok a (f.after w cs))
  | error {e : Error} {g : Formatter} (h : w.error? = some e)
      (hparameters : g.parameters = w.parameters) (hrestored : f.Restored g) :
      f.Outcome w cs a (.error e g)

lemma restored_after (f : Formatter) {w : Written} (h : f.written.Extends w)
    (cs : List Condition) : f.Restored (f.after w cs) := by
  obtain ⟨t, ps, ht, hps⟩ := h
  exact restored_iff.mpr ⟨t, ps, cs, by rw [after, ht, hps]; rfl⟩

end Formatter

namespace Formatting

variable {α β : Type} {s : Scope}

/-- At a place, a rendering writes a draft, takes over joins by conditions, and has a result. -/
def Yields (m : Formatting α) (s : Scope) (d : Draft) (cs : List Condition) (a : α) : Prop :=
  ∀ f : Formatter, f.scope = s → f.Outcome (f.renderer.style.write f.written d) cs a (m f)

/-- At a place, a rendering writes a draft. -/
def Renders (m : Formatting Unit) (s : Scope) (d : Draft) : Prop :=
  m.Yields s d [] ()

/-- At a place, a rendering writes a draft, and may take over joins. -/
def Writes (m : Formatting Unit) (s : Scope) (d : Draft) : Prop :=
  ∃ cs, m.Yields s d cs ()

lemma Renders.writes {m : Formatting Unit} {d : Draft} (h : m.Renders s d) : m.Writes s d :=
  ⟨[], h⟩

/-! ### One rendering after another -/

lemma yields_pure (a : α) : (pure a : Formatting α).Yields s .empty [] a := fun f _ => by
  have hwrite : f.renderer.style.write f.written .empty = f.written := rfl
  have hafter : f.after f.written [] = f := f.after_nil f.written
  rw [hwrite]
  change f.Outcome f.written [] a (.ok a f)
  nth_rewrite 3 [← hafter]
  exact .ok rfl

/-- A rendering that goes on with the result of another. -/
lemma Yields.bind {m : Formatting α} {k : α → Formatting β} {d e : Draft}
    {cs ds : List Condition} {a : α} {b : β} (hm : m.Yields s d cs a)
    (hk : (k a).Yields s e ds b) : (m >>= k).Yields s (d ++ e) (cs ++ ds) b := by
  intro f hf
  have happend := f.renderer.style.write_append d e (r := f.written) rfl
  have hd := f.renderer.style.extends_write f.written d
  change f.Outcome _ _ _ (EStateM.bind m k f)
  rw [EStateM.bind]
  generalize hw : f.renderer.style.write f.written d = w at happend hd
  have hfirst := hm f hf
  rw [hw] at hfirst
  generalize m f = r at hfirst
  -- the second part begins where the first one ended, and is not reached after an error
  cases hfirst with
  | ok h =>
    rw [happend, if_pos h]
    have hsecond := hk (f.after w cs) ((f.scope_after w cs).trans hf)
    rw [f.written_after h] at hsecond
    change (f.after w cs).Outcome (f.renderer.style.write w e) ds b _ at hsecond
    change f.Outcome _ _ _ (k a (f.after w cs))
    generalize k a (f.after w cs) = r at hsecond
    cases hsecond with
    | ok h' =>
      rw [f.after_after]
      exact .ok h'
    | error h' hparameters hrestored =>
      exact .error h' hparameters ((f.restored_after hd cs).trans hrestored)
  | error h hparameters hrestored =>
    rw [happend, if_neg (by simp [h])]
    exact .error h hparameters hrestored

/-! ### Renderings in a row -/

section

variable {a b c a' b' : Formatting Unit} {d e d₁ d₂ d₃ d₄ : Draft} {cs ds : List Condition}

lemma Yields.append (ha : a.Yields s d cs ()) (hb : b.Yields s e ds ()) :
    (a ++ b).Yields s (d ++ e) (cs ++ ds) () :=
  ha.bind hb

lemma Yields.append_renders (ha : a.Yields s d cs ()) (hb : b.Renders s e) :
    (a ++ b).Yields s (d ++ e) cs () := by
  simpa using ha.append hb

lemma Renders.append_yields (ha : a.Renders s d) (hb : b.Yields s e ds ()) :
    (a ++ b).Yields s (d ++ e) ds () :=
  ha.bind hb

@[grind ←]
lemma Renders.append (ha : a.Renders s d) (hb : b.Renders s e) : (a ++ b).Renders s (d ++ e) :=
  ha.bind hb

/-- Several renderings in a row, so that long ones are followed in few steps. -/
@[grind ←]
lemma Renders.append_append_append (ha : a.Renders s d₁) (hb : b.Renders s d₂)
    (ha' : a'.Renders s d₃) (hb' : b'.Renders s d₄) :
    (a ++ b ++ a' ++ b').Renders s (d₁ ++ d₂ ++ d₃ ++ d₄) :=
  ((ha.append hb).append ha').append hb'

@[grind ←]
lemma Writes.append (ha : a.Writes s d) (hb : b.Writes s e) : (a ++ b).Writes s (d ++ e) := by
  obtain ⟨cs, ha⟩ := ha
  obtain ⟨ds, hb⟩ := hb
  exact ⟨cs ++ ds, ha.append hb⟩

end

/-! ### What is written at a place -/

@[grind ←]
lemma renders_emit {draft : Scope → Draft} {d : Draft} (h : draft s = d) :
    (emit draft).Renders s d := by
  subst h
  rintro f rfl
  have hextends := f.renderer.style.extends_write f.written (draft f.scope)
  rw [emit]
  generalize f.renderer.style.write f.written (draft f.scope) = w at hextends
  cases herror : w.error? with
  | none => exact .ok herror
  | some e => exact .error herror rfl (f.restored_after hextends [])

@[grind ←]
lemma renders_empty : empty.Renders s .empty :=
  yields_pure ()

@[grind ←]
lemma renders_text (t : String) : (text t).Renders s (.text t) :=
  renders_emit rfl

@[grind ←]
lemma renders_fail (e : Error) : (fail e).Renders s (.fail e) :=
  renders_emit rfl

@[grind ←]
lemma renders_refuse (feature : String) : (refuse feature).Renders s (s.refuse feature) :=
  renders_emit rfl

@[grind ←]
lemma renders_clause (keyword : String) : (clause keyword).Renders s (s.clause keyword) :=
  renders_emit rfl

/-- Where a draft fails, no joins are taken over. -/
lemma Renders.yields_of_failed {m : Formatting Unit} {d : Draft} (h : m.Renders s d)
    (hd : d.error?.isSome) (cs : List Condition) : m.Yields s d cs () := by
  intro f hf
  have hfailed : (f.renderer.style.write f.written d).error? ≠ none := by
    obtain ⟨e, he⟩ := Option.isSome_iff_exists.mp hd
    simp [Style.write, he]
  have hrenders := h f hf
  generalize m f = r at hrenders
  cases hrenders with
  | ok hnone => exact absurd hnone hfailed
  | error herror hparameters hrestored => exact .error herror hparameters hrestored

/-- A condition that takes over a join. -/
lemma yields_absorb (c : Condition) : (absorb c).Yields s .empty [c] () := fun f _ => by
  have hwrite : f.renderer.style.write f.written .empty = f.written := rfl
  rw [hwrite]
  exact .ok rfl

lemma Yields.asking {k : Scope → Formatting α} {d : Draft} {cs : List Condition} {a : α}
    (h : (k s).Yields s d cs a) : (asking k).Yields s d cs a := by
  rintro f rfl
  exact h f rfl

@[grind ←]
lemma Renders.asking {k : Scope → Formatting Unit} {d : Draft} (h : (k s).Renders s d) :
    (asking k).Renders s d :=
  Yields.asking h

lemma Writes.asking {k : Scope → Formatting Unit} {d : Draft} (h : (k s).Writes s d) :
    (asking k).Writes s d := by
  obtain ⟨cs, h⟩ := h
  exact ⟨cs, h.asking⟩

/-! ### Renderings of several things -/

@[grind ←]
lemma Renders.onlyIf {m : Formatting Unit} {d : Draft} (b : Bool) (h : m.Renders s d) :
    (onlyIf b m).Renders s (.onlyIf b d) := by
  cases b with
  | false => exact renders_empty
  | true => exact h

@[grind ←]
lemma Renders.ofOption {render : α → Formatting Unit} {draft : α → Draft}
    (h : ∀ a, (render a).Renders s (draft a)) (a? : Option α) :
    (ofOption render a?).Renders s (.ofOption draft a?) := by
  cases a? with
  | none => exact renders_empty
  | some a => exact h a

lemma Writes.ofResult {render : α → Formatting Unit} {draft : α → Draft}
    (h : ∀ a, (render a).Writes s (draft a)) (result : Except Error α) :
    (ofResult result render).Writes s (.bind result draft) := by
  cases result with
  | ok a => exact h a
  | error e => exact (renders_fail e).writes

@[grind ←]
lemma Renders.ofResult {render : α → Formatting Unit} {draft : α → Draft}
    (h : ∀ a, (render a).Renders s (draft a)) (result : Except Error α) :
    (ofResult result render).Renders s (.bind result draft) := by
  cases result with
  | ok a => exact h a
  | error e => exact renders_fail e

/-- The joins of several things are taken over in a row. -/
lemma Yields.separated {separator : String} {render : α → Formatting Unit} {draft : α → Draft}
    {joins : α → List Condition} (h : ∀ a, (render a).Yields s (draft a) (joins a) ()) :
    ∀ l : List α, (separated separator (l.map render)).Yields s
      (.separated separator (l.map draft)) (l.flatMap joins) ()
  | [] => renders_empty
  | [a] => by
    rw [List.flatMap_singleton]
    exact h a
  | a :: b :: l =>
    ((h a).append_renders (renders_text separator)).append (Yields.separated h (b :: l))

lemma renders_separated (separator : String) {ms : List (Formatting Unit)} {ds : List Draft}
    (h : List.Forall₂ (fun m d => m.Renders s d) ms ds) :
    (separated separator ms).Renders s (.separated separator ds) := by
  induction h with
  | nil => exact renders_empty
  | cons hm hms ih =>
    cases hms with
    | nil => exact hm
    | cons => exact (hm.append (renders_text separator)).append ih

lemma forall₂_renders_map {render : α → Formatting Unit} {draft : α → Draft}
    (h : ∀ a, (render a).Renders s (draft a)) (l : List α) :
    List.Forall₂ (fun m d => m.Renders s d) (l.map render) (l.map draft) :=
  List.forall₂_map_left_iff.mpr (List.forall₂_map_right_iff.mpr
    (List.forall₂_same.mpr fun a _ => h a))

@[grind ←]
lemma Renders.separated_map {separator : String} {render : α → Formatting Unit}
    {draft : α → Draft} (h : ∀ a, (render a).Renders s (draft a)) (l : List α) :
    (separated separator (l.map render)).Renders s (.separated separator (l.map draft)) :=
  renders_separated separator (forall₂_renders_map h l)

@[grind ←]
lemma Renders.commas_map {render : α → Formatting Unit} {draft : α → Draft}
    (h : ∀ a, (render a).Renders s (draft a)) (l : List α) :
    (commas (l.map render)).Renders s (.commas (l.map draft)) :=
  Renders.separated_map h l

lemma Writes.concat_map {render : α → Formatting Unit} {draft : α → Draft}
    (h : ∀ a, (render a).Writes s (draft a)) (l : List α) :
    (concat (l.map render)).Writes s (.concat (l.map draft)) := by
  induction l with
  | nil => exact renders_empty.writes
  | cons a l ih => exact (h a).append ih

@[grind ←]
lemma Renders.concat_map {render : α → Formatting Unit} {draft : α → Draft}
    (h : ∀ a, (render a).Renders s (draft a)) (l : List α) :
    (concat (l.map render)).Renders s (.concat (l.map draft)) := by
  induction l with
  | nil => exact renders_empty
  | cons a l ih => exact (h a).append ih

end Formatting

end Polysql

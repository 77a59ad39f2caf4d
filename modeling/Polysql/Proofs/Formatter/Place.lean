import Polysql.Draft.Block
import Polysql.Proofs.Formatter.Rule
/-!
Renderings at other places. A change of the place is put back by the rendering itself, also after an
error (`Change.TakenBack`), so a rendering at another place is followed by the rule for that place.
A text of its own is written apart, and is put where a draft embeds it (`Draft.Embeds`).
-/

namespace Polysql

/-- A change goes to another place and changes nothing that has been written, and it is taken back
afterwards. Of the joins that are taken over in between, some are kept. -/
structure Change.TakenBack (c : Change) (move : Scope → Scope)
    (kept : List Condition → List Condition) : Prop where
  renderer (f : Formatter) : (c.enter f).renderer = f.renderer
  written (f : Formatter) : (c.enter f).written = f.written
  scope (f : Formatter) : (c.enter f).scope = move f.scope
  leave (f : Formatter) (w : Written) (cs : List Condition) :
    c.leave f ((c.enter f).after w cs) = f.after w (kept cs)

namespace Change

lemma takenBack_inQuery : inQuery.TakenBack Scope.inQuery fun _ => [] where
  renderer _ := rfl
  written _ := rfl
  scope _ := rfl
  leave f w cs := by cases habsorbed : f.absorbed? <;> simp [inQuery, Formatter.after, habsorbed]

lemma takenBack_operandOf (junction? : Option Junction) :
    (operandOf junction?).TakenBack (Scope.operandOf · junction?) id :=
  ⟨fun _ => rfl, fun _ => rfl, fun _ => rfl, fun _ _ _ => rfl⟩

lemma takenBack_withoutFieldNames : withoutFieldNames.TakenBack Scope.withoutFieldNames id :=
  ⟨fun _ => rfl, fun _ => rfl, fun _ => rfl, fun _ _ _ => rfl⟩

lemma takenBack_unqualified : unqualified.TakenBack Scope.unqualified id :=
  ⟨fun _ => rfl, fun _ => rfl, fun _ => rfl, fun _ _ _ => rfl⟩

lemma takenBack_writtenOut : writtenOut.TakenBack Scope.writtenOut id :=
  ⟨fun _ => rfl, fun _ => rfl, fun _ => rfl, fun _ _ _ => rfl⟩

lemma takenBack_referring : referring.TakenBack ({ · with declareTables := false }) id :=
  ⟨fun _ => rfl, fun _ => rfl, fun _ => rfl, fun _ _ _ => rfl⟩

lemma takenBack_insideBlock : insideBlock.TakenBack Scope.insideBlock id where
  renderer _ := rfl
  written _ := rfl
  scope f := by simp [insideBlock, Formatter.scope, Scope.insideBlock]
  leave _ _ _ := rfl

end Change

namespace Formatting

variable {α : Type} {s : Scope}

/-- **A change that is put back.** What is rendered stands at the new place; what comes after it
finds the place as it was. -/
lemma Yields.within {c : Change} {move : Scope → Scope} {kept : List Condition → List Condition}
    (hc : c.TakenBack move kept) {m : Formatting α} {d : Draft} {cs : List Condition} {a : α}
    (h : m.Yields (move s) d cs a) : (within c m).Yields s d (kept cs) a := by
  rintro f rfl
  have hinner := h (c.enter f) (hc.scope f)
  -- the formatter in the place has written what this one has
  rw [hc.renderer, hc.written] at hinner
  rw [Formatting.within]
  generalize f.renderer.style.write f.written d = w at hinner
  generalize m (c.enter f) = r at hinner
  cases hinner with
  | ok hw =>
    change f.Outcome w (kept cs) a (.ok a (c.leave f ((c.enter f).after w cs)))
    rw [hc.leave]
    exact .ok hw
  | error hw hparameters hrestored =>
    -- on an error the place is left as well, with what was added to the text
    obtain ⟨t, ps, added, rfl⟩ := Formatter.restored_iff.mp hrestored
    change f.Outcome w (kept cs) a (.error _ (c.leave f _))
    rw [hc.leave]
    refine .error hw hparameters (Formatter.restored_iff.mpr ⟨t, ps, kept added, ?_⟩)
    have htext : (c.enter f).text = f.text := congrArg Written.text (hc.written f)
    have hbound : (c.enter f).parameters = f.parameters :=
      congrArg Written.parameters (hc.written f)
    rw [htext, hbound]

section

variable {m : Formatting Unit} {d : Draft} {cs : List Condition}

@[grind ←]
lemma Renders.inQuery (h : m.Renders s.inQuery d) : (within .inQuery m).Renders s d :=
  Yields.within Change.takenBack_inQuery h

@[grind ←]
lemma Renders.operandOf {junction? : Option Junction}
    (h : m.Renders (s.operandOf junction?) d) : (within (.operandOf junction?) m).Renders s d :=
  Yields.within (Change.takenBack_operandOf junction?) h

@[grind ←]
lemma Renders.withoutFieldNames (h : m.Renders s.withoutFieldNames d) :
    (within .withoutFieldNames m).Renders s d :=
  Yields.within Change.takenBack_withoutFieldNames h

@[grind ←]
lemma Renders.unqualified (h : m.Renders s.unqualified d) :
    (within .unqualified m).Renders s d :=
  Yields.within Change.takenBack_unqualified h

@[grind ←]
lemma Renders.writtenOut (h : m.Renders s.writtenOut d) : (within .writtenOut m).Renders s d :=
  Yields.within Change.takenBack_writtenOut h

lemma Writes.writtenOut (h : m.Writes s.writtenOut d) : (within .writtenOut m).Writes s d := by
  obtain ⟨cs, h⟩ := h
  exact ⟨cs, Yields.within Change.takenBack_writtenOut h⟩

lemma Writes.insideBlock (h : m.Writes s.insideBlock d) : (within .insideBlock m).Writes s d := by
  obtain ⟨cs, h⟩ := h
  exact ⟨cs, Yields.within Change.takenBack_insideBlock h⟩

/-- The joins that are collected are those of what is rendered, and no others. -/
lemma Yields.collecting (h : m.Yields s.absorbing d cs ()) :
    (collecting m).Yields s d [] cs := by
  rintro f rfl
  have hinner := h { f with absorbed? := some [] } rfl
  change Formatter.Outcome _ (f.renderer.style.write f.written d) cs () _ at hinner
  rw [Formatting.collecting]
  generalize f.renderer.style.write f.written d = w at hinner
  -- the list of conditions starts out empty and is put back, whether or not there is an error
  generalize m { f with absorbed? := some [] } = r at hinner
  cases hinner with
  | ok hw =>
    change f.Outcome w [] cs (.ok ([] ++ cs)
      { f with text := w.text, parameters := w.parameters })
    rw [← f.after_nil w, List.nil_append]
    exact .ok hw
  | error hw hparameters hrestored =>
    obtain ⟨t, ps, added, rfl⟩ := Formatter.restored_iff.mp hrestored
    refine .error hw hparameters (Formatter.restored_iff.mpr ⟨t, ps, [], ?_⟩)
    rw [f.after_nil]
    rfl

end

end Formatting

/-! ### Texts of their own -/

/-- A draft has the text of another one in it, as that one is written on its own. -/
def Draft.Embeds (d e : Draft) (around : String → String) : Prop :=
  ∀ (st : Style) (r : Written), r.error? = none →
    (st.write r d).error? = (st.write (.start r.parameters) e).error? ∧
      (st.write r d).parameters = (st.write (.start r.parameters) e).parameters ∧
      ((st.write r d).error? = none →
        (st.write r d).text = r.text ++ around (st.write (.start r.parameters) e).text)

namespace Draft

variable {d e : Draft} {around : String → String}

lemma embeds_embed (wrapping : Wrapping) (d : Draft) :
    (embed wrapping d).Embeds d wrapping.around := fun st r _ => by
  rw [st.write_embed]
  exact ⟨rfl, rfl, fun _ => rfl⟩

lemma embeds_quoted (d : Draft) : (embed .quoted d).Embeds d (Text.doubled '\'') :=
  embeds_embed .quoted d

/-- What binds nothing is written on its own as it is behind a blank, although it may end
statements. -/
lemma embeds_of_closed (hd : allClosed d.pieces) (before : String)
    (hbefore : before.toList.getLast? = some ' ') :
    (text before ++ d).Embeds d (before ++ ·) := fun st r hr => by
  have hend := Style.endsStatement_append_of_blank r.text hbefore
  obtain ⟨t, ht⟩ := st.writePieces_behind hend (allClosed_iff.mp hd) ""
  obtain ⟨hstart, hbehind⟩ := ht r.parameters
  rw [String.append_empty] at hbehind
  rw [st.write_append _ _ hr, st.write_text before hr, if_pos rfl, Style.write, Style.write,
    Written.start, hstart, hbehind]
  exact ⟨rfl, rfl, fun _ => String.append_assoc⟩

/-- What is embedded in something that is embedded. -/
lemma Embeds.embed (h : d.Embeds e around) (wrapping : Wrapping) :
    (embed wrapping d).Embeds e fun t => wrapping.around (around t) := fun st r _ => by
  obtain ⟨herror, hparameters, htext⟩ := h st (.start r.parameters) rfl
  rw [st.write_embed]
  refine ⟨herror, hparameters, fun hnone => ?_⟩
  change r.text ++ wrapping.around _ = _
  rw [htext hnone]
  exact congrArg (fun t => r.text ++ wrapping.around t) String.empty_append

lemma Embeds.text_append (h : d.Embeds e around) (before : String) :
    (text before ++ d).Embeds e fun t => before ++ around t := fun st r hr => by
  rw [st.write_append _ _ hr, st.write_text before hr, if_pos rfl]
  obtain ⟨herror, hparameters, htext⟩ := h st ⟨r.text ++ before, r.parameters, none⟩ rfl
  exact ⟨herror, hparameters, fun hnone => (htext hnone).trans String.append_assoc⟩

lemma Embeds.append_text (h : d.Embeds e around) (after : String) :
    (d ++ text after).Embeds e fun t => around t ++ after := fun st r hr => by
  obtain ⟨herror, hparameters, htext⟩ := h st r hr
  rw [st.write_append _ _ hr]
  cases hnone : (st.write r d).error? with
  | some e =>
    rw [if_neg (Option.some_ne_none _)]
    exact ⟨herror, hparameters, fun h => absurd (hnone.symm.trans h) (Option.some_ne_none _)⟩
  | none =>
    rw [if_pos rfl, st.write_text after hnone, htext hnone]
    exact ⟨hnone.symm.trans herror, hparameters, fun _ => String.append_assoc⟩

end Draft

/-- What is written apart is put in its place when it is there. -/
lemma Formatter.Outcome.apart {f : Formatter} {v w : Written} {cs : List Condition}
    {m : Formatting Unit} {around : String → String} (h : f.apart.Outcome v cs () (m f.apart))
    (herror : w.error? = v.error?) (hparameters : w.parameters = v.parameters)
    (htext : w.error? = none → w.text = f.text ++ around v.text) :
    f.Outcome w [] () (Formatting.apart m around f) := by
  change f.Outcome w [] ()
    (EStateM.bind (Formatting.nested m) (fun t => Formatting.text (around t)) f)
  rw [EStateM.bind, Formatting.nested]
  generalize m f.apart = r at h
  cases h with
  | ok hv =>
    -- the inner text comes around what was there, the values behind it
    have hw := herror.trans hv
    have hwritten : w = ⟨f.text ++ around v.text, v.parameters, none⟩ := by
      rw [← htext hw, ← hparameters, ← hw]
    rw [hwritten]
    exact .ok rfl
  | error hv hbound hrestored =>
    obtain ⟨_, ⟨ps, hps⟩, _⟩ := hrestored
    refine .error (herror.trans hv) (hbound.trans hparameters.symm)
      (Formatter.restored_iff.mpr ⟨"", ps, [], ?_⟩)
    rw [hps, String.append_empty, f.after_nil]
    rfl

namespace Formatting

/-- **A text of its own.** It is written apart and shares the values that are bound. -/
lemma Writes.apart {s : Scope} {m : Formatting Unit} {d e : Draft} {around : String → String}
    (h : m.Writes s.inText e) (hd : d.Embeds e around) :
    (apart m around).Renders s d := by
  rintro f rfl
  obtain ⟨cs, h⟩ := h
  obtain ⟨herror, hparameters, htext⟩ := hd f.renderer.style f.written rfl
  exact Formatter.Outcome.apart (h f.apart rfl) herror hparameters htext

end Formatting

end Polysql

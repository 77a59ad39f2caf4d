import Polysql.Proofs.Writing.Text
/-!
Drafts that differ in parentheses only. A draft that sheds parentheses of another one binds the same
values and fails where it does and with its error; otherwise its text is shorter. So the two are
written alike exactly if nothing is shed or they fail (`Style.map_run_of_sheds`).
-/

namespace Polysql

namespace Draft

/-- The second draft is the first one without some of its parentheses, if any are lost. Behind an
error there are none to be missed. -/
inductive Sheds (m : Manner) : Bool → Draft → Draft → Prop
  | same {d : Draft} (h : d.Follows m) : Sheds m false d d
  | fail {lost : Bool} (e : Error) : Sheds m lost (fail e) (fail e)
  | parens {d : Draft} (h : d.Follows m) : Sheds m true ("(" ++ d ++ ")") d
  | append {lost lost' : Bool} {a b c d : Draft} (h : Sheds m lost a b) (h' : Sheds m lost' c d) :
      Sheds m (lost || lost') (a ++ c) (b ++ d)

namespace Sheds

variable {m : Manner} {lost : Bool} {a b : Draft}

/-- Where nothing is lost, the drafts are the same. -/
lemma eq_of_kept (h : Sheds m lost a b) (hlost : lost = false) : a = b := by
  induction h with
  | same => rfl
  | fail => rfl
  | parens => cases hlost
  | append _ _ ih ih' =>
    obtain ⟨hl, hl'⟩ := Bool.or_eq_false_iff.mp hlost
    rw [ih hl, ih' hl']

/-- A common beginning. -/
lemma after (h : Sheds m lost a b) {c : Draft} (hc : c.Follows m) :
    Sheds m lost (c ++ a) (c ++ b) := by
  simpa using append (same hc) h

/-- A common end. -/
lemma before (h : Sheds m lost a b) {c : Draft} (hc : c.Follows m) :
    Sheds m lost (a ++ c) (b ++ c) := by
  simpa using append h (same hc)

lemma separated_cons (separator : String) (d : Draft) {ds : List Draft} (h : ds ≠ []) :
    separated separator (d :: ds) = d ++ text separator ++ separated separator ds := by
  cases ds with
  | nil => exact absurd rfl h
  | cons d' ds => rfl

/-- One of several drafts. -/
lemma separated (separator : String) (h : Sheds m lost a b) {before after : List Draft}
    (hbefore : ∀ d ∈ before, d.Follows m) (hafter : ∀ d ∈ after, d.Follows m) :
    Sheds m lost (.separated separator (before ++ a :: after))
      (.separated separator (before ++ b :: after)) := by
  induction before with
  | nil =>
    cases after with
    | nil => exact h
    | cons d ds =>
      exact (h.before (follows_text separator)).before (follows_separated separator hafter)
  | cons d ds ih =>
    obtain ⟨hd, hds⟩ := List.forall_mem_cons.mp hbefore
    rw [List.cons_append, List.cons_append, separated_cons separator d (by simp),
      separated_cons separator d (by simp)]
    exact (ih hds).after (by simp [hd])

end Sheds

end Draft

namespace Style

variable (st : Style) {m : Manner} {lost : Bool} {a b : Draft}

/-- **Drafts that differ in parentheses, written.** Both fail with the same error, or both bind the
same values and the text of the second one is shorter if parentheses are lost. -/
theorem run_sheds (hm : m ≠ .procedural) (h : Draft.Sheds m lost a b) {r r' : Written}
    (hr : r.error? = none) (hr' : r'.error? = none) (hbound : r.parameters = r'.parameters) :
    (∃ e, st.run r a = .error e ∧ st.run r' b = .error e) ∨
      ∃ w w', st.run r a = .ok w ∧ st.run r' b = .ok w' ∧ w.parameters = w'.parameters ∧
        w'.text.length + r.text.length + lost.toNat ≤ w.text.length + r'.text.length := by
  -- behind texts of different lengths, since the parts before may have lost parentheses already
  induction h generalizing r r' with
  | same hd =>
    obtain ⟨added, hrun, hrun'⟩ :=
      st.run_append_added hm hd hr hr' (congrArg List.length hbound)
    rw [hrun, hrun']
    cases added with
    | error e => exact .inl ⟨e, rfl, rfl⟩
    | ok x =>
      refine .inr ⟨_, _, rfl, rfl, by simp [Written.append, hbound], ?_⟩
      simp only [Written.append, String.length_append, Bool.toNat_false]
      omega
  | fail e => exact .inl ⟨e, st.run_fail e hr, st.run_fail e hr'⟩
  | @parens d hd =>
    obtain ⟨added, hrun, hrun'⟩ :=
      st.run_append_added (r := r.add "(") hm hd hr hr' (congrArg List.length hbound)
    have hparens : st.run r ("(" ++ d ++ ")") =
        ((added.map (r.add "(").append).bind fun w => st.run w (.text ")")) := by
      rw [st.run_append _ _ hr, st.run_append _ _ hr, st.run_text "(" hr, ← hrun]
      rfl
    rw [hparens, hrun']
    cases added with
    | error e => exact .inl ⟨e, rfl, rfl⟩
    | ok x =>
      refine .inr ⟨_, _, st.run_text ")" rfl, rfl, ?_, ?_⟩
      · simp [Written.append, Written.add, hbound]
      · have hopen : "(".length = 1 := rfl
        have hclose : ")".length = 1 := rfl
        simp only [Written.append, Written.add, String.length_append, Bool.toNat_true, hopen,
          hclose]
        omega
  | @append lost lost' _ _ _ _ _ _ ih ih' =>
    rw [st.run_append _ _ hr, st.run_append _ _ hr']
    obtain ⟨e, ha, hb⟩ | ⟨w, w', ha, hb, hwbound, hlength⟩ := ih hr hr' hbound
    · rw [ha, hb]
      exact .inl ⟨e, rfl, rfl⟩
    · rw [ha, hb]
      obtain h | ⟨x, x', hc, hd, hxbound, hlength'⟩ :=
        ih' (st.error?_of_run ha) (st.error?_of_run hb) hwbound
      · exact .inl h
      · refine .inr ⟨x, x', hc, hd, hxbound, ?_⟩
        have hlost : (lost || lost').toNat ≤ lost.toNat + lost'.toNat := by
          cases lost <;> cases lost' <;> decide
        omega

/-- Drafts that differ in parentheses bind the same values, and are written alike if none are lost
or if they fail. What is kept of the writing has to tell texts apart. -/
theorem map_run_of_sheds (hm : m ≠ .procedural) (h : Draft.Sheds m lost a b) {r : Written}
    (hr : r.error? = none) {γ : Type} (kept : Written → γ)
    (hkept : ∀ w w', kept w = kept w' → w.text = w'.text) :
    (st.run r b).map Written.parameters = (st.run r a).map Written.parameters ∧
      ((st.run r b).map kept = (st.run r a).map kept ↔
        (∃ e, st.run r a = .error e) ∨ lost = false) := by
  obtain ⟨e, ha, hb⟩ | ⟨w, w', ha, hb, hbound, hlength⟩ := st.run_sheds hm h hr hr rfl
  · rw [ha, hb]
    exact ⟨rfl, fun _ => .inl ⟨e, rfl⟩, fun _ => rfl⟩
  · rw [ha, hb]
    refine ⟨congrArg Except.ok hbound.symm, fun heq => .inr (Bool.eq_false_iff.mpr ?_), ?_⟩
    · rintro rfl
      have htext := congrArg String.length (hkept _ _ (Except.ok.inj heq))
      rw [Bool.toNat_true] at hlength
      omega
    · rintro (⟨e, he⟩ | hlost)
      · cases he
      · obtain rfl := h.eq_of_kept hlost
        rw [Except.ok.inj (hb.symm.trans ha)]

end Style

/-- Statements whose drafts differ in parentheses. -/
lemma Renderer.render_of_sheds (r : Renderer) {lost : Bool} {stmt stmt' : Statement}
    (hstmt : stmt.isExecutable = true) (hstmt' : stmt'.isExecutable = true)
    (h : Draft.Sheds .bound lost (Draft.ofStatement r.target stmt)
      (Draft.ofStatement r.target stmt')) :
    (r.render stmt').map Rendered.parameters = (r.render stmt).map Rendered.parameters ∧
      (r.render stmt' = r.render stmt ↔ (∃ e, r.render stmt = .error e) ∨ lost = false) := by
  have hparameters (x : Except Error Written) :
      (x.map fun w => (⟨w.text, w.parameters⟩ : Rendered)).map Rendered.parameters =
        x.map Written.parameters := by
    cases x <;> rfl
  obtain ⟨hbound, heq⟩ := r.style.map_run_of_sheds (by decide) h (r := .start []) rfl
    (fun w => (⟨w.text, w.parameters⟩ : Rendered)) fun _ _ h => congrArg Rendered.sql h
  rw [r.render_eq hstmt, r.render_eq hstmt', hparameters, hparameters]
  refine ⟨hbound, heq.trans (or_congr ?_ Iff.rfl)⟩
  cases r.style.run (.start []) (Draft.ofStatement r.target stmt) with
  | error e => simp
  | ok w => simp

end Polysql

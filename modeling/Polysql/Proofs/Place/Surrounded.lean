import Polysql.Proofs.Evaluation.Junction
import Polysql.Proofs.Place.Descent
import Polysql.Proofs.Writing.Shed
/-!
Conditions surrounded by others. A junction of one operand is drafted as the operand, but among the
operands of a further junction it counts as a single condition, so that the parentheses which the
operand needs there are lost. Layers of such junctions around a condition change nothing else: what
stands around the condition is drafted as before, and binds the same values
(`Writers.sheds_surrounded_layered`).
-/

namespace Polysql

/-! ### Layers and frames -/

/-- The junction whose operands the joined conditions are. -/
def Connective.junction : Connective → Junction
  | and => .and
  | or => .or

/-- A condition in layers of connectives that join nothing else. -/
def Condition.layered (c : Condition) (layers : List Connective) : Condition :=
  layers.foldr (fun k d => k.join [d]) c

/-- What stands around a condition in the next larger one. -/
inductive Frame where
  | not
  | joined (k : Connective) (before after : List Condition)
  | xorLeft (right : Condition)
  | xorRight (left : Condition)

namespace Frame

/-- The larger condition. -/
def around (c : Condition) : Frame → Condition
  | not => .not c
  | joined k before after => k.join (before ++ c :: after)
  | xorLeft right => .xor c right
  | xorRight left => .xor left c

/-- The junctions that a condition is drafted as an operand of. There are two of them where an
exclusive junction is spelled out, and none if the condition has no neighbour. -/
def junctions (s : Scope) : Frame → List Junction
  | not => []
  | joined k before after => if (before ++ after).isEmpty then [] else [k.junction]
  | xorLeft _ | xorRight _ => if s.has Feature.xor then [.xor] else [.or, .and]

/-- Something is lost of a condition in the frame: what is lost on its own if the frame has no
junction, and otherwise what is lost in one of its junctions. -/
def passes (s : Scope) (f : Frame) (lost : Bool) (lostUnder : Junction → Bool) : Bool :=
  match f.junctions s with
  | [] => lost
  | js => js.any lostUnder

variable (s : Scope) (lost : Bool) (lostUnder : Junction → Bool)

/-- In both sides of an exclusive junction, the same is lost. -/
lemma passes_xorLeft (e : Condition) : (xorLeft e).passes s lost lostUnder =
    if s.has Feature.xor then lostUnder .xor else lostUnder .or || lostUnder .and := by
  rw [passes, junctions]
  cases s.has Feature.xor <;> simp

lemma passes_xorRight (e : Condition) : (xorRight e).passes s lost lostUnder =
    if s.has Feature.xor then lostUnder .xor else lostUnder .or || lostUnder .and :=
  passes_xorLeft s lost lostUnder e

/-- What is lost in junctions only is lost in one of those of the frame. -/
lemma passes_eq_false (f : Frame) :
    f.passes s false lostUnder = false ↔ ∀ j ∈ f.junctions s, lostUnder j = false := by
  rw [passes]
  rcases f.junctions s with _ | ⟨j, js⟩ <;> simp

/-- What is lost everywhere is lost in any frame. -/
lemma passes_const (f : Frame) : f.passes s lost (fun _ => lost) = lost := by
  rw [passes]
  rcases f.junctions s with _ | ⟨j, js⟩
  · rfl
  · cases lost <;> simp

end Frame

/-- A condition in frames, the first one being the innermost. -/
def Condition.surrounded (c : Condition) (frames : List Frame) : Condition :=
  frames.foldl Frame.around c

/-- As an operand of a junction, a condition loses its parentheses when a layer hides it. An
exclusive junction that is spelled out keeps them if its detour puts them around itself. -/
def Scope.loses (s : Scope) (j : Junction) : Condition → Bool
  | .xor c d => s.has Feature.xor || !(Condition.expandXor c d).needsParens j
  | c => c.needsParens j

/-- A condition in frames keeps its parentheses when layers hide it: it needs none as an operand of
the junctions of the innermost frame. -/
def Scope.Keeps (s : Scope) (c : Condition) (frames : List Frame) : Prop :=
  ∀ f ∈ frames.head?, ∀ j ∈ f.junctions s, s.loses j c = false

namespace Writers

/-! ### Conditions at their places -/

variable (s : Scope) (j? : Option Junction)

lemma condition_join_singleton (k : Connective) (c : Condition) :
    ofRank.condition s (k.join [c]) = ofRank.condition s c := by
  rw [condition_ofRank]
  cases k <;> rfl

/-- Several conditions joined are drafted alike at any place. -/
lemma condition_join (k : Connective) {cs : List Condition} (h : 2 ≤ cs.length) :
    ofRank.condition (s.operandOf j?) (k.join cs) =
      .separated k.junction.separator (cs.map (ofRank.junctionOperand s k.junction)) := by
  rw [condition_ofRank]
  match cs, h with
  | _ :: _ :: _, _ => cases k <;> rfl

lemma condition_join_congr (i? : Option Junction) (k : Connective) {cs : List Condition}
    (h : 2 ≤ cs.length) :
    ofRank.condition (s.operandOf j?) (k.join cs) =
      ofRank.condition (s.operandOf i?) (k.join cs) := by
  rw [condition_join s j? k h, condition_join s i? k h]

lemma condition_not (c : Condition) :
    ofRank.condition (s.operandOf j?) (.not c) =
      "NOT " ++ ("(" ++ ofRank.condition (s.operandOf none) c ++ ")") := by
  rw [condition_ofRank]
  rfl

lemma condition_xor (c d : Condition) :
    ofRank.condition (s.operandOf j?) (.xor c d) =
      if s.has Feature.xor then
        ofRank.junctionOperand s .xor c ++ " XOR " ++ ofRank.junctionOperand s .xor d
      else
        ofRank.detour (s.operandOf j?) (Condition.expandXor c d) := by
  rw [condition_ofRank]
  rfl

variable {s} {j : Junction} {c : Condition}

lemma junctionOperand_of_needsParens (h : c.needsParens j = true) :
    ofRank.junctionOperand s j c = "(" ++ ofRank.condition (s.operandOf none) c ++ ")" := by
  rw [junctionOperand, if_pos h, parenthesized]

lemma junctionOperand_of_not_needsParens (h : c.needsParens j = false) :
    ofRank.junctionOperand s j c = ofRank.condition (s.operandOf (some j)) c := by
  rw [junctionOperand, h, if_neg Bool.false_ne_true]

/-- In a junction, a detour is drafted as an operand. -/
lemma detour_operandOf :
    ofRank.detour (s.operandOf (some j)) c = ofRank.junctionOperand s j c := rfl

end Writers

lemma Condition.needsParens_join (k : Connective) (cs : List Condition) (j : Junction) :
    (k.join cs).needsParens j = (decide (2 ≤ cs.length) && j != k.junction) := by
  cases k <;> rfl

/-! ### Conditions that differ in parentheses -/

/-- The drafts of two conditions differ in parentheses only: the second one has lost some on its own
if `lost`, and as an operand of a junction if `lostUnder` holds of it. -/
structure Condition.Sheds (s : Scope) (lost : Bool) (lostUnder : Junction → Bool)
    (c d : Condition) : Prop where
  condition (j? : Option Junction) : Draft.Sheds s.manner lost
    (Writers.ofRank.condition (s.operandOf j?) c) (Writers.ofRank.condition (s.operandOf j?) d)
  operand (j : Junction) : Draft.Sheds s.manner (lostUnder j)
    (Writers.ofRank.junctionOperand s j c) (Writers.ofRank.junctionOperand s j d)

namespace Condition.Sheds

open Writers

variable {s : Scope} {lost : Bool} {lostUnder : Junction → Bool} {c d : Condition}

/-- Conditions that need parentheses alike. -/
lemma of_needsParens (hparens : ∀ j, c.needsParens j = d.needsParens j)
    (h : ∀ j?, Draft.Sheds s.manner lost (ofRank.condition (s.operandOf j?) c)
      (ofRank.condition (s.operandOf j?) d)) :
    Condition.Sheds s lost (fun _ => lost) c d where
  condition := h
  operand j := by
    have hj := hparens j
    cases hc : c.needsParens j with
    | true =>
      rw [junctionOperand_of_needsParens hc, junctionOperand_of_needsParens (hj.symm.trans hc)]
      exact ((h none).after (Draft.follows_text _)).before (Draft.follows_text _)
    | false =>
      rw [junctionOperand_of_not_needsParens hc,
        junctionOperand_of_not_needsParens (hj.symm.trans hc)]
      exact h (some j)

/-- A negated condition stands in parentheses anyway. -/
lemma not (h : Condition.Sheds s lost lostUnder c d) :
    Condition.Sheds s lost (fun _ => lost) (.not c) (.not d) := by
  refine of_needsParens (fun _ => rfl) fun j? => ?_
  rw [condition_not, condition_not]
  exact (((h.condition none).after (Draft.follows_text _)).before (Draft.follows_text _)).after
    (Draft.follows_text _)

/-- A condition among others that are joined with it. -/
lemma joined (h : Condition.Sheds s lost lostUnder c d) (k : Connective)
    (before after : List Condition) :
    let lost' := (Frame.joined k before after).passes s lost lostUnder
    Condition.Sheds s lost' (fun _ => lost') (k.join (before ++ c :: after))
      (k.join (before ++ d :: after)) := by
  refine of_needsParens (fun j => ?_) fun j? => ?_
  · simp [needsParens_join]
  · by_cases hempty : before ++ after = []
    · -- without a neighbour, the condition stands at the place of the frame itself
      obtain ⟨rfl, rfl⟩ := List.append_eq_nil_iff.mp hempty
      rw [List.nil_append, List.nil_append, condition_join_singleton, condition_join_singleton]
      exact h.condition j?
    · have hlen (x : Condition) : 2 ≤ (before ++ x :: after).length := by
        have := List.length_pos_iff.mpr hempty
        simp only [List.length_append, List.length_cons] at this ⊢
        omega
      have hlost :
          (Frame.joined k before after).passes s lost lostUnder = lostUnder k.junction := by
        simp [Frame.passes, Frame.junctions, hempty]
      have hothers (cs : List Condition) :
          ∀ e ∈ cs.map (ofRank.junctionOperand s k.junction), e.Follows s.manner :=
        List.forall_mem_map.mpr fun e _ => ofRank_settled.junctionOperand s k.junction e
      rw [hlost, condition_join s j? k (hlen c), condition_join s j? k (hlen d)]
      simp only [List.map_append, List.map_cons]
      exact (h.operand k.junction).separated _ (hothers before) (hothers after)

/-- The two halves of an exclusive junction that is spelled out. -/
lemma spelledOut {lost' : Bool} {c' d' : Condition}
    (h : Condition.Sheds s lost (fun _ => lost) c d)
    (h' : Condition.Sheds s lost' (fun _ => lost') c' d') :
    Condition.Sheds s (lost || lost') (fun _ => lost || lost') (.and [c, .not c'])
      (.and [d, .not d']) := by
  refine of_needsParens (fun _ => rfl) fun j? => ?_
  have hpair (c c' : Condition) : ofRank.condition (s.operandOf j?) (.and [c, c']) =
      ofRank.junctionOperand s .and c ++ " AND " ++ ofRank.junctionOperand s .and c' :=
    condition_join s j? .and (Nat.le_refl 2)
  rw [hpair, hpair]
  exact ((h.operand .and).before (Draft.follows_text _)).append (h'.not.operand .and)

/-- The two sides of an exclusive junction, whether it is spelled out or not. -/
lemma xor {c' d' : Condition}
    (hxor : Draft.Sheds s.manner (lostUnder .xor)
      (ofRank.junctionOperand s .xor c ++ " XOR " ++ ofRank.junctionOperand s .xor c')
      (ofRank.junctionOperand s .xor d ++ " XOR " ++ ofRank.junctionOperand s .xor d'))
    (hor : Condition.Sheds s (lostUnder .or) (fun _ => lostUnder .or) (.or [c, c']) (.or [d, d']))
    (hand : Condition.Sheds s (lostUnder .and) (fun _ => lostUnder .and) (.and [c, c'])
      (.and [d, d'])) :
    let lost' := if s.has Feature.xor then lostUnder .xor else lostUnder .or || lostUnder .and
    Condition.Sheds s lost' (fun _ => lost') (.xor c c') (.xor d d') := by
  refine of_needsParens (fun _ => rfl) fun j? => ?_
  rw [condition_xor, condition_xor]
  split
  · exact hxor
  · have h := hor.spelledOut hand
    -- the detour gets parentheses by the junction that the exclusive one stands in
    cases j? with
    | none => exact h.condition none
    | some j => exact h.operand j

/-- Both sides of a pair, one of them being the same. -/
lemma pair (h : Condition.Sheds s lost lostUnder c d) (k : Connective) (e : Condition) :
    Condition.Sheds s (lostUnder k.junction) (fun _ => lostUnder k.junction) (k.join [c, e])
        (k.join [d, e]) ∧
      Condition.Sheds s (lostUnder k.junction) (fun _ => lostUnder k.junction) (k.join [e, c])
        (k.join [e, d]) := by
  constructor
  · simpa [Frame.passes, Frame.junctions] using h.joined k [] [e]
  · simpa [Frame.passes, Frame.junctions] using h.joined k [e] []

/-- **A frame.** What a condition has lost in a frame, the larger condition has lost everywhere. -/
theorem around (h : Condition.Sheds s lost lostUnder c d) (f : Frame) :
    Condition.Sheds s (f.passes s lost lostUnder) (fun _ => f.passes s lost lostUnder) (f.around c)
      (f.around d) := by
  have hoperand (e : Condition) : (ofRank.junctionOperand s .xor e).Follows s.manner :=
    ofRank_settled.junctionOperand s .xor e
  have hword : (Draft.text " XOR ").Follows s.manner := Draft.follows_text " XOR "
  cases f with
  | not => exact h.not
  | joined k before after => exact h.joined k before after
  | xorLeft e =>
    rw [Frame.passes_xorLeft]
    -- natively the operand stands beside `XOR`, written out in an `OR` and in an `AND`
    have hxor := ((h.operand .xor).before hword).before (hoperand e)
    exact xor hxor (h.pair .or e).1 (h.pair .and e).1
  | xorRight e =>
    rw [Frame.passes_xorRight]
    have hleft := (Draft.follows_append _ _).mpr ⟨hoperand e, fun _ => hword⟩
    have hxor := (h.operand .xor).after hleft
    exact xor hxor (h.pair .or e).2 (h.pair .and e).2

/-- Frames around conditions that have lost the same everywhere. -/
lemma surrounded (h : Condition.Sheds s lost (fun _ => lost) c d) (frames : List Frame) :
    Condition.Sheds s lost (fun _ => lost) (c.surrounded frames) (d.surrounded frames) := by
  induction frames generalizing c d with
  | nil => exact h
  | cons f frames ih =>
    have hf := h.around f
    rw [Frame.passes_const] at hf
    exact ih hf

end Condition.Sheds

namespace Writers

/-! ### Layers -/

section

variable (s : Scope) (c : Condition) (layers : List Connective)

/-- Layers do not change the draft of a condition at its place. -/
lemma condition_layered : ofRank.condition s (c.layered layers) = ofRank.condition s c := by
  induction layers with
  | nil => rfl
  | cons k layers ih => exact (condition_join_singleton s k _).trans ih

/-- A condition in a layer gets no parentheses. -/
lemma needsParens_layered (h : layers ≠ []) (j : Junction) :
    (c.layered layers).needsParens j = false := by
  cases layers with
  | nil => exact absurd rfl h
  | cons k layers => exact Condition.needsParens_join k [c.layered layers] j

/-- Only several conditions joined and exclusive junctions need parentheses. -/
lemma cases_of_needsParens {c : Condition} {j : Junction} (h : c.needsParens j = true) :
    (∃ (k : Connective) (cs : List Condition), 2 ≤ cs.length ∧ c = k.join cs) ∨
      ∃ d e, c = .xor d e := by
  cases c with
  | and cs =>
    obtain ⟨hlen, -⟩ := Bool.and_eq_true_iff.mp h
    exact .inl ⟨.and, cs, of_decide_eq_true hlen, rfl⟩
  | or cs =>
    obtain ⟨hlen, -⟩ := Bool.and_eq_true_iff.mp h
    exact .inl ⟨.or, cs, of_decide_eq_true hlen, rfl⟩
  | xor d e => exact .inr ⟨d, e, rfl⟩
  | _ => cases h

lemma loses_of_join (k : Connective) (cs : List Condition) (j : Junction) :
    s.loses j (k.join cs) = (k.join cs).needsParens j := by
  cases k <;> rfl

/-- What an exclusive junction loses when it is drafted in place: where it is spelled out, its
detour may put the parentheses around itself. -/
lemma xor_sheds (j : Junction) (d e : Condition) :
    Draft.Sheds s.manner (s.loses j (.xor d e))
      ("(" ++ ofRank.condition (s.operandOf none) (.xor d e) ++ ")")
      (ofRank.condition (s.operandOf (some j)) (.xor d e)) := by
  have hfollows := ofRank_settled.condition (s.operandOf none)
  rw [Scope.loses]
  by_cases hx : s.has Feature.xor = true
  · -- spelled natively, it is the same text at every place
    have hplace (j? : Option Junction) := condition_xor s j? d e
    simp only [if_pos hx] at hplace
    rw [hx, Bool.true_or, hplace (some j), ← hplace none]
    exact .parens (hfollows _)
  · have hplace (j? : Option Junction) := condition_xor s j? d e
    simp only [if_neg hx] at hplace
    -- written out it is an `AND`, which may have parentheses of its own
    rw [Bool.eq_false_iff.mpr hx, Bool.false_or, hplace none, hplace (some j), detour_operandOf]
    change Draft.Sheds _ _ ("(" ++ ofRank.condition (s.operandOf none) _ ++ ")") _
    cases hparens : (Condition.expandXor d e).needsParens j with
    | true =>
      rw [junctionOperand_of_needsParens hparens]
      exact .same (ofRank_settled.parenthesized s _)
    | false =>
      have hsame : ofRank.condition (s.operandOf (some j)) (Condition.expandXor d e) =
          ofRank.condition (s.operandOf none) (Condition.expandXor d e) :=
        condition_join_congr s (some j) none .and (Nat.le_refl 2)
      rw [junctionOperand_of_not_needsParens hparens, hsame]
      exact .parens (hfollows _)

/-- What a condition loses when it is drafted in place, and not as the operand that it is. -/
lemma junctionOperand_sheds (j : Junction) :
    Draft.Sheds s.manner (s.loses j c) (ofRank.junctionOperand s j c)
      (ofRank.condition (s.operandOf (some j)) c) := by
  cases hc : c.needsParens j with
  | false =>
    have hlost : s.loses j c = false := by
      cases c <;> first | exact hc | cases hc
    rw [hlost, junctionOperand_of_not_needsParens hc]
    exact .same (ofRank_settled.condition (s.operandOf (some j)) c)
  | true =>
    rw [junctionOperand_of_needsParens hc]
    obtain ⟨k, cs, hlen, rfl⟩ | ⟨d, e, rfl⟩ := cases_of_needsParens hc
    · rw [loses_of_join, hc, condition_join_congr s none (some j) k hlen]
      exact .parens (ofRank_settled.condition (s.operandOf (some j)) _)
    · exact xor_sheds s j d e

/-- A condition and the same in layers. -/
lemma sheds_layered (h : layers ≠ []) :
    Condition.Sheds s false (fun j => s.loses j c) c (c.layered layers) where
  condition j? := by
    rw [condition_layered]
    exact .same (ofRank_settled.condition (s.operandOf j?) c)
  operand j := by
    rw [junctionOperand_of_not_needsParens (needsParens_layered c layers h j), condition_layered]
    exact junctionOperand_sheds s c j

/-- A condition in frames and the same in layers in these frames. -/
theorem sheds_surrounded_layered (h : layers ≠ []) (frames : List Frame) :
    ∃ lost : Bool, (lost = false ↔ s.Keeps c frames) ∧
      Draft.Sheds s.manner lost (ofRank.condition s (c.surrounded frames))
        (ofRank.condition s ((c.layered layers).surrounded frames)) := by
  have hlayered := sheds_layered s c layers h
  cases frames with
  | nil => exact ⟨false, iff_of_true rfl nofun, hlayered.condition s.junction?⟩
  | cons f frames =>
    -- only the innermost frame sees the layers, the others pass on what is lost in it
    refine ⟨_, ?_, ((hlayered.around f).surrounded frames).condition s.junction?⟩
    simp [Scope.Keeps, Frame.passes_eq_false]

end

/-! ### Queries -/

section

variable {s : Scope} {lost : Bool} {c d : Condition} {q : Select}

/-- The rows of a query, whose condition differs in parentheses. -/
lemma body_sheds (h : Draft.Sheds s.manner lost (ofRank.condition s c) (ofRank.condition s d))
    (hlimit : q.limited? = none) (htables : q.tables.flatMap (Table.absorbed s.dialect) = []) :
    Draft.Sheds s.manner lost (ofRank.body s { q with filter? := some c } true)
      (ofRank.body s { q with filter? := some d } true) := by
  have hfront (c : Condition) : Draft.limitInFront s { q with filter? := some c } = .empty := by
    rw [Draft.limitInFront, show Select.limited? { q with filter? := some c } = none from hlimit]
    rfl
  have hwhere (c : Condition) : ofRank.whereClause s
      (rowCondition s.dialect { q with filter? := some c }) =
        s.clause "WHERE " ++ ofRank.condition s c := by
    rw [rowCondition, htables]
    rfl
  simp only [body, hfront, hwhere]
  refine ((h.after (s.follows_clause "WHERE ")).after ?_).before ?_ |>.before ?_
  · simp [ofRank_settled.distinct, ofRank_settled.selectFields, ofRank_settled.fromClause]
  · simp [ofRank_settled.exprs]
  · simp [ofRank_settled.condition]

/-- A query whose condition differs in parentheses. -/
lemma select_sheds (h : Draft.Sheds s.manner lost (ofRank.condition s c) (ofRank.condition s d))
    (hlimit : q.limited? = none) (htables : q.tables.flatMap (Table.absorbed s.dialect) = []) :
    Draft.Sheds s.manner lost (ofRank.select s { q with filter? := some c })
      (ofRank.select s { q with filter? := some d }) := by
  have hselect (c : Condition) : ofRank.select s { q with filter? := some c } =
      ofRank.selectLimited s { q with filter? := some c } := by
    rw [select_ofRank, draftSelect,
      show Select.limited? { q with filter? := some c } = none from hlimit]
  have hend (c : Condition) : Draft.limitAtEnd s { q with filter? := some c } = .empty := by
    rw [Draft.limitAtEnd, show Select.limited? { q with filter? := some c } = none from hlimit]
    rfl
  simp only [hselect, selectLimited, hend]
  split
  · exact .fail _
  · have hsetOps := Draft.follows_concat_map (ofRank.setOperation s) fun o (_ : o ∈ q.setOps) =>
      ofRank_settled.setOperation s o
    have hbody := (body_sheds h hlimit htables).after (c := .ofOption (ofRank.withClause s) q.with?)
      (by simp [ofRank_settled.withClause])
    have horder := (hbody.before hsetOps).before (ofRank_settled.orderBy s q.orderBy)
    exact (horder.before Draft.follows_empty).before (by simp)

end

end Writers

/-- **Layers of junctions without a neighbour.** They bind nothing and do not change what a
condition is written as, wherever it stands, as long as it needs no parentheses as an operand of the
innermost junction around it; otherwise these are lost, and the text is another one unless there is
an error. In particular that decides what a query with such a condition is rendered as. -/
theorem Renderer.render_layered_iff (R : Renderer) (c : Condition) {layers : List Connective}
    (hlayers : layers ≠ []) (frames : List Frame) :
    (∀ (s : Scope) (r : Written), r.error? = none →
      let plain := R.style.run r (Writers.ofRank.condition s (c.surrounded frames))
      let layered := R.style.run r
        (Writers.ofRank.condition s ((c.layered layers).surrounded frames))
      layered.map Written.parameters = plain.map Written.parameters ∧
        (layered = plain ↔ (∃ e, plain = .error e) ∨ s.Keeps c frames)) ∧
    ∀ q : Select, q.limited? = none → q.tables.flatMap (Table.absorbed R.dialect) = [] →
      let plain := R.render (.select { q with filter? := some (c.surrounded frames) })
      let layered := R.render
        (.select { q with filter? := some ((c.layered layers).surrounded frames) })
      layered.map Rendered.parameters = plain.map Rendered.parameters ∧
        (layered = plain ↔
          (∃ e, plain = .error e) ∨ Scope.Keeps { target := R.target } c frames) := by
  constructor
  · intro s r hr
    obtain ⟨lost, hlost, h⟩ := Writers.sheds_surrounded_layered s c layers hlayers frames
    have hmanner : s.manner ≠ .procedural := by
      rw [Scope.manner]
      split <;> decide
    obtain ⟨hbound, heq⟩ := R.style.map_run_of_sheds hmanner h hr id fun _ _ h => congrArg _ h
    have hid (x : Except Error Written) : x.map id = x := by
      cases x <;> rfl
    rw [hid, hid] at heq
    exact ⟨hbound, heq.trans (or_congr Iff.rfl hlost)⟩
  · intro q hlimit htables
    obtain ⟨lost, hlost, h⟩ :=
      Writers.sheds_surrounded_layered { target := R.target } c layers hlayers frames
    -- around its condition the query is drafted alike
    have hquery := Writers.select_sheds h hlimit htables
    rw [← Writers.ofStatement_select, ← Writers.ofStatement_select] at hquery
    obtain ⟨hbound, heq⟩ := R.render_of_sheds rfl rfl hquery
    exact ⟨hbound, heq.trans (or_congr Iff.rfl hlost)⟩

/-- A negated condition stands in parentheses of its own, whatever layers hide it. -/
theorem Renderer.render_layered_iff_not :
    let r : Renderer := { dialect := .postgres }
    let field (text : String) : Condition := .holds (.column (.ofText text))
    let c : Condition := .or [field "b", field "c"]
    let frames : List Frame := [.not, .joined .and [field "a"] []]
    let layered := (c.layered [.and, .or]).surrounded frames
    let s : Scope := { target := r.target, junction? := some .xor }
    let q : Select := { tables := [.ofName (.ofText "t")] }
    r.style.run (.start []) (Writers.ofRank.condition s layered) =
        r.style.run (.start []) (Writers.ofRank.condition s (c.surrounded frames)) ∧
      r.render (.select { q with filter? := some layered }) =
        r.render (.select { q with filter? := some (c.surrounded frames) }) := by
  intro r field c frames layered s q
  have hkeeps (s : Scope) : s.Keeps c frames := by
    rintro f ⟨⟩ j hj
    cases hj
  obtain ⟨hplace, hquery⟩ :=
    r.render_layered_iff c (List.cons_ne_nil Connective.and [Connective.or]) frames
  exact ⟨(hplace s (.start []) rfl).2.mpr (.inr (hkeeps s)),
    (hquery q rfl rfl).2.mpr (.inr (hkeeps _))⟩

/-- A disjunction among the operands of a conjunction, on its own and in a layer: without its
parentheses, the text means something else. -/
theorem Renderer.render_layered_or :
    let r : Renderer := { dialect := .postgres }
    let field (text : String) : Condition := .holds (.column (.ofText text))
    let query (c : Condition) : Statement :=
      .select { tables := [.ofName (.ofText "t")],
                filter? := some (c.surrounded [.joined .and [field "a"] []]) }
    let c : Condition := .or [field "b", field "c"]
    (r.render (query c)).map Rendered.sql =
        .ok "SELECT * FROM \"t\" WHERE \"a\" AND (\"b\" OR \"c\")" ∧
      (r.render (query (c.layered [.and]))).map Rendered.sql =
        .ok "SELECT * FROM \"t\" WHERE \"a\" AND \"b\" OR \"c\"" ∧
      r.render (query (c.layered [.and])) ≠ r.render (query c) := by
  intro r field query c
  have hplain : (r.render (query c)).map Rendered.sql =
      .ok "SELECT * FROM \"t\" WHERE \"a\" AND (\"b\" OR \"c\")" := by
    decide +kernel
  have hlayered : (r.render (query (c.layered [.and]))).map Rendered.sql =
      .ok "SELECT * FROM \"t\" WHERE \"a\" AND \"b\" OR \"c\"" := by
    decide +kernel
  refine ⟨hplain, hlayered, fun h => ?_⟩
  rw [h, hplain] at hlayered
  exact absurd hlayered (by decide)

end Polysql

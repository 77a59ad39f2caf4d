import Polysql.Proofs.Reading.Drafted
import Polysql.Proofs.Reading.Predicate
import Polysql.Proofs.Reading.Reader
/-!
The drafts of conditions, read back. Whatever the engine takes a detour for and however junctions
are nested, the text of a condition is read as a condition with its truth (`read_condition`). By
induction on the level of the writers, the draft of a condition on its own is the text of a tree,
and the draft of an operand of a junction is a chain of predicates (`Draft.ReadsAt`).
-/

namespace Polysql

open Polysql.Tree

namespace Draft

variable {p : Precedence} {q : Bool} {j : Junction} {d : Draft} {c : Condition}

/-- The draft is the text of predicates in a junction, which have the truth of other conditions in
it. -/
def ReadsBeside (p : Precedence) (q : Bool) (j : Junction) (d : Draft) (cs : List Condition) :
    Prop :=
  d.error? = none → ∃ (t : Tree) (ts : List Tree) (ds : List Condition),
    d.tokens = (chain j.operator t ts).tokens ∧
      List.Forall₂ (Leaf p q) (t :: ts) ds ∧ ∀ columns, j.eval columns ds = j.eval columns cs

/-- A predicate is a junction of its own. -/
lemma Reads.beside (h : d.Reads (·.Leaf p q c)) (j : Junction) : d.ReadsBeside p q j [c] := by
  intro hok
  obtain ⟨t, htokens, hleaf⟩ := h hok
  exact ⟨t, [], [c], htokens, .cons hleaf .nil, fun _ => rfl⟩

lemma ReadsBeside.congr {cs ds : List Condition} (h : d.ReadsBeside p q j cs)
    (heval : ∀ columns, j.eval columns cs = j.eval columns ds) : d.ReadsBeside p q j ds := by
  intro hok
  obtain ⟨t, ts, cs', htokens, hleaves, heval'⟩ := h hok
  exact ⟨t, ts, cs', htokens, hleaves, fun columns => (heval' columns).trans (heval columns)⟩

/-- Operands of a junction make up a condition. -/
lemma ReadsBeside.alone (h : d.ReadsBeside p q j [c]) : d.Reads (·.IsCondition p q c) := by
  intro hok
  obtain ⟨t, ts, cs, htokens, hleaves, heval⟩ := h hok
  cases hleaves with
  | @cons _ a _ as hleaf hleaves =>
    have hmeans : t.Means q (j.eval · [a]) :=
      hleaf.means.congr fun columns => (j.eval_singleton columns a).symm
    have hchain := means_chain (hleaves.imp fun _ _ h => h.means) hmeans
    refine ⟨chain j.operator t ts, htokens,
      fits_chain hleaves hleaf.fits (hleaf.leftOf j) hleaf.closed, hchain.congr fun columns => ?_⟩
    exact (heval columns).trans (j.eval_singleton columns c)

/-- A condition in parentheses is a predicate. -/
lemma Reads.parenthesized (h : d.Reads (·.IsCondition p q c)) :
    ("(" ++ d ++ ")" : Draft).Reads (·.Leaf p q c) := by
  refine h.group.imp fun _ ht => ?_
  obtain ⟨t, rfl, ht⟩ := ht
  exact ht.group

/-! ### Junctions -/

lemma tokensOfText_separator (j : Junction) : tokensOfText j.separator = j.operator.tokens := by
  cases j <;> rfl

lemma tokens_chain_append (op : Operator) (t u : Tree) (ts us : List Tree) :
    (chain op t (ts ++ u :: us)).tokens =
      (chain op t ts).tokens ++ op.tokens ++ (chain op u us).tokens := by
  rw [tokens_chain, tokens_chain, tokens_chain, List.flatMap_append, List.flatMap_cons]
  simp only [List.append_assoc]

/-- Operands of a junction, each of which may consist of operands itself. -/
lemma readsBeside_separated {ds : List Draft} {cs : List Condition}
    (h : List.Forall₂ (fun d c => d.ReadsBeside p q j [c]) ds cs) :
    ∀ {d : Draft} {c : Condition}, d.ReadsBeside p q j [c] →
      (separated j.separator (d :: ds)).ReadsBeside p q j (c :: cs) := by
  induction h with
  | nil => exact id
  | @cons e a ds as he _ ih =>
    intro d c hd hok
    have hsplit : separated j.separator (d :: e :: ds) =
        d ++ text j.separator ++ separated j.separator (e :: ds) := rfl
    rw [hsplit] at hok ⊢
    obtain ⟨hleft, hright⟩ := error?_append.mp hok
    obtain ⟨t, ts, cs, htokens, hleaves, heval⟩ := hd (error?_append.mp hleft).1
    obtain ⟨u, us, cs', htokens', hleaves', heval'⟩ := ih he hright
    refine ⟨t, ts ++ u :: us, cs ++ cs', ?_, List.rel_append hleaves hleaves', fun columns => ?_⟩
    · rw [tokens_append hleft, tokens_append (error?_append.mp hleft).1, tokens_text,
        tokensOfText_separator, htokens, htokens', tokens_chain_append]
    · rw [j.eval_append, heval, heval', ← j.eval_append]
      rfl

/-! ### Predicates -/

/-- A comparison of two rows. -/
lemma reads_compare {a b : Draft} {l r : Row} (ha : a.Reads (·.IsRow p q l)) (op : CompareOp)
    (hb : b.Reads (·.IsRow p q r)) :
    (a ++ " " ++ op.sign ++ " " ++ b : Draft).Reads (·.Leaf p q (.rowCompare l op r)) := by
  have hsign : tokensOfText op.sign = (Operator.compare op).tokens := by
    cases op <;> rfl
  refine (ha.binary hb hsign).imp fun _ ht => ?_
  obtain ⟨t, u, rfl, ht, hu⟩ := ht
  exact leaf_compare ht op hu

/-- A test of a row for NULL. -/
lemma reads_isNull {d : Draft} {row : Row} (h : d.Reads (·.IsRow p q row)) (negate : Bool) :
    (d ++ " IS " ++ notIf negate ++ "NULL" : Draft).Reads (·.Leaf p q (.rowIsNull row negate)) := by
  intro hok
  simp only [error?_append, error?_text, and_true] at hok
  obtain ⟨t, ht, hrow⟩ := h hok
  refine ⟨binary .is t (null negate), ?_, leaf_isNull hrow negate⟩
  have hwords : tokensOfText " IS " ++ tokensOfText (notIf negate) ++ tokensOfText "NULL" =
      Operator.is.tokens ++ (null negate).tokens := by
    cases negate <;> rfl
  rw [Tree.tokens, List.append_assoc, ← hwords, ← ht]
  simp only [tokens_append, error?_append, error?_text, hok, and_self, tokens_text,
    List.append_assoc]

/-- A row in a list of rows. -/
lemma reads_member {d : Draft} {row : Row} (h : d.Reads (·.IsRow p q row)) {draft : Row → Draft}
    {list : List Row} (hlist : ∀ r ∈ list, (draft r).Reads (·.IsRow p q r)) (negate : Bool) :
    (d ++ " " ++ notIf negate ++ "IN (" ++ commas (list.map draft) ++ ")" : Draft).Reads
      (·.Leaf p q (.rowInList row list negate)) := by
  intro hok
  simp only [error?_append, error?_text, and_true] at hok
  obtain ⟨hdok, hlistok⟩ := hok
  obtain ⟨t, ht, hrow⟩ := h hdok
  obtain ⟨ts, hts, hrows⟩ := reads_commas hlist hlistok
  refine ⟨binary (.isIn negate) t (group ts), ?_, leaf_member hrow hrows negate⟩
  have hwords : tokensOfText " " ++ tokensOfText (notIf negate) ++ tokensOfText "IN (" =
      (Operator.isIn negate).tokens ++ [.opening] := by
    cases negate <;> rfl
  have hclosing : tokensOfText ")" = [.closing] := rfl
  rw [Tree.tokens, Tree.tokens, ← hts, ← ht]
  simp only [tokens_append, error?_append, error?_text, hdok, hlistok, and_self, tokens_text]
  rw [List.append_assoc d.tokens, List.append_assoc d.tokens, hwords, hclosing]
  simp only [List.append_assoc, List.cons_append, List.nil_append]

/-- A row between two others. -/
lemma reads_between {d low high : Draft} {row lows highs : Row} (h : d.Reads (·.IsRow p q row))
    (hlow : low.Reads (·.IsRow p q lows)) (hhigh : high.Reads (·.IsRow p q highs))
    (negate symmetric : Bool) :
    (d ++ Writers.betweenWords negate symmetric ++ low ++ " AND " ++ high : Draft).Reads
      (·.Leaf p q (.rowBetween row lows highs negate symmetric)) := by
  intro hok
  simp only [error?_append, error?_text, and_true] at hok
  obtain ⟨⟨hdok, hlowok⟩, hhighok⟩ := hok
  obtain ⟨t, ht, hrow⟩ := h hdok
  obtain ⟨u, hu, hlows⟩ := hlow hlowok
  obtain ⟨v, hv, hhighs⟩ := hhigh hhighok
  refine ⟨binary .upper (binary (.lower negate) t (lowerBound symmetric u)) v, ?_,
    leaf_between hrow hlows hhighs negate symmetric⟩
  have hwords : tokensOfText (Writers.betweenWords negate symmetric) ++ u.tokens =
      (Operator.lower negate).tokens ++ (lowerBound symmetric u).tokens := by
    cases negate <;> cases symmetric <;> rfl
  have hand : tokensOfText " AND " = Operator.upper.tokens := rfl
  rw [Tree.tokens, Tree.tokens, List.append_assoc t.tokens, ← hwords, ← hand, ← ht, ← hv, ← hu]
  simp only [tokens_append, error?_append, error?_text, hdok, hlowok, and_self, tokens_text,
    List.append_assoc]

/-- A negation. -/
lemma Reads.not (h : d.Reads (·.IsCondition p q c)) :
    ("NOT " ++ ("(" ++ d ++ ")" : Draft) : Draft).Reads (·.Leaf p q (.not c)) := by
  intro hok
  obtain ⟨_, htokens, t, rfl, ht⟩ := h.group (error?_append.mp hok).2
  refine ⟨unary .not (Tree.group [t]), ?_, ht.not⟩
  rw [tokens_text_append, htokens]
  rfl

end Draft

/-! ### Writers -/

namespace Draft

/-- The draft is the text of a condition that stands at a place. -/
def ReadsAt (p : Precedence) (s : Scope) (d : Draft) (c : Condition) : Prop :=
  match s.junction? with
  | none => d.Reads (·.IsCondition p s.qualify c)
  | some j => d.ReadsBeside p s.qualify j [c]

variable {p : Precedence} {s : Scope} {d : Draft} {c : Condition}

lemma Reads.at (h : d.Reads (·.Leaf p s.qualify c)) : d.ReadsAt p s c := by
  rw [ReadsAt]
  split
  next => exact h.imp fun _ ht => ht.toIsCondition
  next j _ => exact h.beside j

lemma ReadsAt.congr (h : d.ReadsAt p s c) {c' : Condition}
    (heval : ∀ columns, c.eval columns = c'.eval columns) : d.ReadsAt p s c' := by
  rw [ReadsAt] at h ⊢
  split
  next hs =>
    rw [hs] at h
    exact Reads.imp h fun _ ht => ⟨ht.fits, ht.means.congr heval⟩
  next j hs =>
    rw [hs] at h
    refine ReadsBeside.congr h fun columns => ?_
    rw [j.eval_singleton, j.eval_singleton, heval]

/-- A failed draft is the text of anything. -/
lemma readsAt_of_failed (h : d.error? ≠ none) : d.ReadsAt p s c := by
  rw [ReadsAt]
  split
  · exact fun hok => absurd hok h
  · exact fun hok => absurd hok h

end Draft

namespace Writers

/-- The writers draft operands and conditions as texts of them. -/
structure Reads (p : Precedence) (w : Writers) : Prop where
  operand (s : Scope) {e : Expr} (he : e.IsOperand) :
    (w.expr s e).Reads (·.IsValue p s.qualify e)
  condition (s : Scope) {c : Condition} (hc : c.Readable Expr.IsOperand)
    (hparens : ∀ j, s.junction? = some j → c.needsParens j = false) :
    (w.condition s c).ReadsAt p s c

namespace Reads

variable {p : Precedence} {w : Writers} (hw : w.Reads p) (s : Scope)
include hw

lemma value {e : Expr} (he : e.IsOperand) : (w.expr s e).Reads (·.IsRow p s.qualify [e]) :=
  (hw.operand s he).imp fun _ ht => ht.row

lemma row {r : Row} (hr : IsOperandRow r) : (w.row s r).Reads (·.IsRow p s.qualify r) := by
  intro hok
  rw [Writers.row, Draft.error?_append, Draft.error?_append] at hok
  obtain ⟨⟨_, hexprs⟩, _⟩ := hok
  obtain ⟨ts, htokens, hvalues⟩ :=
    Draft.reads_commas (fun e he => hw.operand s (hr e he)) hexprs
  refine ⟨group ts, ?_, isRow_group hvalues⟩
  rw [Writers.row, Draft.append_assoc, Draft.tokens_text_append, Draft.tokens_append hexprs,
    Draft.tokens_text, Writers.exprs, htokens, Tree.tokens]
  rfl

/-- A condition in parentheses. -/
lemma parenthesized {c : Condition} (hc : c.Readable Expr.IsOperand) :
    (w.parenthesized s c).Reads (·.Leaf p s.qualify c) := by
  have hinner : (w.condition (s.operandOf none) c).ReadsAt p (s.operandOf none) c :=
    hw.condition _ hc fun j hj => by cases hj
  exact Draft.Reads.parenthesized hinner

/-- An operand of a junction. -/
lemma junctionOperand (j : Junction) {c : Condition} (hc : c.Readable Expr.IsOperand) :
    (w.junctionOperand s j c).ReadsBeside p s.qualify j [c] := by
  rw [Writers.junctionOperand]
  split
  next => exact (hw.parenthesized s hc).beside j
  next hparens =>
    exact hw.condition (s.operandOf (some j)) hc fun j' hj => by
      cases hj
      exact Bool.eq_false_iff.mpr hparens

/-- A detour is read as the condition it replaces. -/
lemma detour {c c' : Condition} (hc : c.Readable Expr.IsOperand)
    (heval : ∀ columns, c.eval columns = c'.eval columns) : (w.detour s c).ReadsAt p s c' := by
  refine Draft.ReadsAt.congr ?_ heval
  rw [Writers.detour]
  split
  next parent hs =>
    split
    next => exact (hw.parenthesized s hc).at
    next hparens =>
      exact hw.condition s hc fun j hj => by
        rw [hs] at hj
        cases hj
        exact Bool.eq_false_iff.mpr hparens
  next hs =>
    exact hw.condition s hc fun j hj => by
      rw [hs] at hj
      cases hj

lemma detourOf {result : Except Error Condition} {c' : Condition}
    (hresult : ∀ c, result = .ok c → c.Readable Expr.IsOperand)
    (heval : ∀ columns, (Evaluated.ofExcept result >>= Condition.eval columns) = c'.eval columns) :
    (w.detourOf s result).ReadsAt p s c' := by
  cases result with
  | error e => exact Draft.readsAt_of_failed (Option.some_ne_none e)
  | ok c => exact hw.detour s (hresult c rfl) heval

omit hw in
lemma constantCondition (b : Bool) :
    (Writers.constantCondition s b).Reads (·.Leaf p s.qualify (.ofBool b)) := by
  intro _
  rw [Writers.constantCondition]
  cases s.has Feature.booleanValues with
  | true =>
    cases b with
    | true => exact ⟨_, rfl, leaf_always.1⟩
    | false => exact ⟨_, rfl, leaf_never.1⟩
  | false =>
    cases b with
    | true => exact ⟨_, rfl, leaf_always.2⟩
    | false => exact ⟨_, rfl, leaf_never.2⟩

lemma between {e low high : Expr} (he : e.IsOperand) (hlow : low.IsOperand)
    (hhigh : high.IsOperand) (negate symmetric : Bool) :
    (w.between s e low high negate symmetric).ReadsAt p s
      (.between e low high negate symmetric) := by
  have hnative := (Draft.reads_between (hw.value s he) (hw.value s hlow) (hw.value s hhigh)
    negate symmetric).at.congr fun columns =>
      eval_rowBetween_singleton columns e low high negate symmetric
  dsimp only [Writers.between]
  split
  · exact hnative
  · split
    next c hexpand =>
      exact hw.detour s (Condition.readable_of_expandBetween he hlow hhigh hexpand) fun columns =>
        eval_expandBetween columns hexpand
    next => exact hnative

lemma rowCompare {l r : Row} (hl : IsOperandRow l) (op : CompareOp) (hr : IsOperandRow r) :
    (w.rowCompare s l op r).ReadsAt p s (.rowCompare l op r) := by
  rw [Writers.rowCompare]
  split
  · exact (Draft.reads_compare (hw.row s hl) op (hw.row s hr)).at
  · exact hw.detourOf s (fun c hc => Condition.readable_of_expandRowCompare hl hr hc)
      fun columns => eval_expandRowCompare columns l op r


lemma rowInList {row : Row} (hrow : IsOperandRow row) {list : List Row}
    (hlist : ∀ r ∈ list, IsOperandRow r) (negate : Bool) :
    (w.rowInList s row list negate).ReadsAt p s (.rowInList row list negate) := by
  rw [Writers.rowInList]
  split
  next hempty =>
    -- no row is in an empty list
    obtain rfl := List.isEmpty_iff.mp hempty
    have hofBool : (Condition.ofBool negate).Readable Expr.IsOperand ∧
        ∀ j, (Condition.ofBool negate).needsParens j = false := by
      cases negate with
      | false => exact ⟨.never, fun _ => rfl⟩
      | true => exact ⟨.always, fun _ => rfl⟩
    refine (hw.condition s hofBool.1 fun j _ => hofBool.2 j).congr fun columns => ?_
    cases negate <;> rfl
  next =>
    split
    · exact (Draft.reads_member (hw.row s hrow) (fun r hr => hw.row s (hlist r hr)) negate).at
    · exact hw.detourOf s (fun c hc => Condition.readable_of_expandRowIn hrow hlist hc)
        fun columns => eval_expandRowIn columns row list negate

lemma rowIsNull {row : Row} (hrow : IsOperandRow row) (negate : Bool) :
    (w.rowIsNull s row negate).ReadsAt p s (.rowIsNull row negate) := by
  rw [Writers.rowIsNull]
  split
  · exact (Draft.reads_isNull (hw.row s hrow) negate).at
  · exact hw.detour s (Condition.readable_expandRowIsNull hrow negate) fun columns =>
      eval_expandRowIsNull columns row negate

lemma rowBetween {row low high : Row} (hrow : IsOperandRow row) (hlow : IsOperandRow low)
    (hhigh : IsOperandRow high) (negate symmetric : Bool) :
    (w.rowBetween s row low high negate symmetric).ReadsAt p s
      (.rowBetween row low high negate symmetric) := by
  dsimp only [Writers.rowBetween]
  split
  · exact (Draft.reads_between (hw.row s hrow) (hw.row s hlow) (hw.row s hhigh) negate
      symmetric).at
  · exact hw.detourOf s
      (fun c hc => Condition.readable_of_expandRowBetween hrow hlow hhigh hc)
      fun columns => eval_expandRowBetween columns row low high negate symmetric

/-- Operands of a junction that stand together at the place of the junction. -/
lemma separated (j : Junction) {cs : List Condition} {c : Condition} (hne : cs ≠ [])
    (hcs : ∀ c ∈ cs, c.Readable Expr.IsOperand)
    (heval : ∀ columns, j.eval columns cs = c.eval columns)
    (hs : ∀ j', s.junction? = some j' → j' = j) :
    (Draft.separated j.separator (cs.map (w.junctionOperand s j))).ReadsAt p s c := by
  -- operand by operand first, whatever the junction stands in
  have hbeside : (Draft.separated j.separator (cs.map (w.junctionOperand s j))).ReadsBeside p
      s.qualify j [c] := by
    obtain ⟨b, bs, rfl⟩ := List.exists_cons_of_ne_nil hne
    obtain ⟨hb, hbs⟩ := List.forall_mem_cons.mp hcs
    have hoperands : List.Forall₂ (fun d c => d.ReadsBeside p s.qualify j [c])
        (bs.map (w.junctionOperand s j)) bs := by
      rw [List.forall₂_map_left_iff]
      exact List.forall₂_same.mpr fun c hc => hw.junctionOperand s j (hbs c hc)
    have hall := Draft.readsBeside_separated hoperands (hw.junctionOperand s j hb)
    exact Draft.ReadsBeside.congr hall fun columns => by rw [heval, j.eval_singleton]
  rw [Draft.ReadsAt]
  split
  next => exact hbeside.alone
  next j' hj' =>
    obtain rfl := hs j' hj'
    exact hbeside

lemma junction (j : Junction) {ifEmpty c : Condition} {cs : List Condition}
    (hlen : cs.length ≠ 1) (hcs : ∀ c ∈ cs, c.Readable Expr.IsOperand)
    (hempty : ifEmpty.Readable Expr.IsOperand ∧ ∀ j', ifEmpty.needsParens j' = false)
    (hevalEmpty : cs = [] → ∀ columns, ifEmpty.eval columns = c.eval columns)
    (heval : ∀ columns, j.eval columns cs = c.eval columns)
    (hs : cs ≠ [] → ∀ j', s.junction? = some j' → j' = j) :
    (w.junction s j ifEmpty cs).ReadsAt p s c := by
  rw [Writers.junction.eq_def]
  split
  next => exact (hw.condition s hempty.1 fun j' _ => hempty.2 j').congr (hevalEmpty rfl)
  next => exact absurd rfl hlen
  next hne _ => exact hw.separated s j hne hcs heval (hs hne)

lemma xor {c d : Condition} (hc : c.Readable Expr.IsOperand) (hd : d.Readable Expr.IsOperand)
    (hs : ∀ j, s.junction? ≠ some j) : (w.xor s c d).ReadsAt p s (.xor c d) := by
  have heval (columns : Bindings) :
      Junction.xor.eval columns [c, d] = (Condition.xor c d).eval columns := by
    rw [← List.singleton_append, Junction.eval_append, Junction.eval_singleton,
      Junction.eval_singleton]
    exact (Junction.eval_pair .xor columns c d).symm
  rw [Writers.xor]
  split
  · exact hw.separated s .xor (List.cons_ne_nil c [d])
      (List.forall_mem_cons.mpr ⟨hc, List.forall_mem_singleton.mpr hd⟩) heval
      fun j hj => absurd hj (hs j)
  · exact hw.detour s (hc.expandXor hd) fun columns => eval_expandXor columns c d

omit hw in
lemma two_le_length {cs : List Condition} (hne : cs ≠ []) (hlen : cs.length ≠ 1) :
    2 ≤ cs.length := by
  have hpos := List.length_pos_iff.mpr hne
  omega

/-- The draft of a condition. -/
lemma draftCondition {c : Condition} (hc : c.Readable Expr.IsOperand)
    (hparens : ∀ j, s.junction? = some j → c.needsParens j = false) :
    (w.draftCondition s c).ReadsAt p s c := by
  -- predicates are read alike at any place; only junctions have to know where they stand
  cases hc with
  | always => exact (constantCondition s true).at
  | never => exact (constantCondition s false).at
  | @compare a b ha op hb =>
    exact (Draft.reads_compare (hw.value s ha) op (hw.value s hb)).at.congr fun columns =>
      eval_rowCompare_singleton columns a op b
  | between he hlow hhigh negate symmetric =>
    exact hw.between s he hlow hhigh negate symmetric
  | @isNull e he negate =>
    exact (Draft.reads_isNull (hw.value s he) negate).at.congr fun columns =>
      eval_rowIsNull_singleton columns e negate
  | rowCompare hl op hr _ => exact hw.rowCompare s hl op hr
  | rowInList hrow hlist _ negate => exact hw.rowInList s hrow hlist negate
  | rowIsNull hrow negate => exact hw.rowIsNull s hrow negate
  | rowBetween hrow hlow hhigh _ negate symmetric =>
    exact hw.rowBetween s hrow hlow hhigh negate symmetric
  | @not c hc =>
    have hinner : (w.condition (s.operandOf none) c).ReadsAt p (s.operandOf none) c :=
      hw.condition _ hc fun j hj => by cases hj
    exact Draft.Reads.at (Draft.Reads.not hinner)
  | @and cs hlen hcs =>
    refine hw.junction s .and hlen hcs ⟨.always, fun _ => rfl⟩ (fun h columns => ?_)
      (fun columns => (Condition.eval_and columns cs).symm) fun hne j hj => ?_
    · rw [h, Condition.eval_always, Condition.eval_and_nil]
    · have htwo := two_le_length hne hlen
      simpa [Condition.needsParens, htwo] using hparens j hj
  | @or cs hlen hcs =>
    refine hw.junction s .or hlen hcs ⟨.never, fun _ => rfl⟩ (fun h columns => ?_)
      (fun columns => (Condition.eval_or columns cs).symm) fun hne j hj => ?_
    · rw [h, Condition.eval_never, Condition.eval_or_nil]
    · have htwo := two_le_length hne hlen
      simpa [Condition.needsParens, htwo] using hparens j hj
  | xor hc hd => exact hw.xor s hc hd fun j hj => Bool.noConfusion (hparens j hj)

end Reads

/-- Nothing is drafted at level zero. -/
lemma reads_level_zero (p : Precedence) : (level 0).Reads p where
  operand _ _ _ := Draft.reads_of_failed (Option.some_ne_none _)
  condition _ _ _ _ := Draft.readsAt_of_failed (Option.some_ne_none _)

/-- The drafts of operands and conditions are read back at every level. -/
theorem reads_level (p : Precedence) (n : Nat) : (level n).Reads p := by
  induction n with
  | zero => exact reads_level_zero p
  | succ n ih =>
    exact
      { operand := fun s e he => by
          cases he with
          | constant c => exact Draft.reads_constant c
          | field hn type => exact Draft.reads_column hn
        condition := fun s c hc hparens => ih.draftCondition s hc hparens }

end Writers

/-- **Reading conditions.** The draft of a condition on its own fails only below its rank, or where
a constant cannot be written. It is read as a condition that has the same truth for all values of
the columns, however tight bitwise operators bind. Columns that are written without their qualifier
have the value of what is written. -/
theorem read_condition (p : Precedence) (n : Nat) (s : Scope) (hs : s.junction? = none)
    {c : Condition} (hc : c.Readable Expr.IsOperand) :
    (c.Readable s.Writes → c.rank ≤ n → ((Writers.level n).condition s c).error? = none) ∧
      (((Writers.level n).condition s c).error? = none →
        ∃ t c', read p ((Writers.level n).condition s c).tokens = some t ∧
          t.condition? = some c' ∧
          ∀ columns : Bindings, columns.Covers s.qualify →
            c'.eval columns = c.eval (columns.shown s.qualify)) := by
  refine ⟨drafted_condition, fun hok => ?_⟩
  have hreads := (Writers.reads_level p n).condition s hc fun j hj => by
    rw [hs] at hj
    cases hj
  rw [Draft.ReadsAt, hs] at hreads
  obtain ⟨t, htokens, hfits, c', hc', hagrees⟩ := hreads hok
  refine ⟨t, c', ?_, hc', hagrees⟩
  rw [htokens]
  exact read_tokens_iff.mpr hfits

/-- On Oracle, where `(x, 1) < (2, 3) AND NOT (1 = 0)` has to be spelled out. -/
theorem read_condition_rows :
    ∃ t c', read default
        ((Writers.level 8).condition (.alone .oracle21c)
          (.and [.rowCompare [.column (.ofText "x"), .number 1] .lt [.number 2, .number 3],
            .not .never])).tokens = some t ∧
      t.condition? = some c' ∧
      ∀ columns : Bindings, c'.eval columns =
        (Condition.and [.rowCompare [.column (.ofText "x"), .number 1] .lt [.number 2, .number 3],
          .not .never]).eval columns := by
  have hx : (Scope.alone .oracle21c).Writes (.column (.ofText "x")) :=
    .field (List.cons_ne_nil _ _) .unknown
  have hnumber (k : Nat) : (Scope.alone .oracle21c).Writes (.number k) := .constant rfl
  have hl : IsRowOf (Scope.alone .oracle21c).Writes [.column (.ofText "x"), .number 1] :=
    List.forall_mem_cons.mpr ⟨hx, List.forall_mem_singleton.mpr (hnumber 1)⟩
  have hr : IsRowOf (Scope.alone .oracle21c).Writes [.number 2, .number 3] :=
    List.forall_mem_cons.mpr ⟨hnumber 2, List.forall_mem_singleton.mpr (hnumber 3)⟩
  have hc := Condition.Readable.and_pair (.rowCompare hl .lt hr rfl) (.not .never)
  obtain ⟨hdrafted, hread⟩ := read_condition default 8 (.alone .oracle21c) rfl
    (hc.mono fun _ he => he.isOperand)
  obtain ⟨t, c', hread, hc', heval⟩ := hread (hdrafted hc (by decide))
  exact ⟨t, c', hread, hc', fun columns => heval columns (.inl rfl)⟩

end Polysql

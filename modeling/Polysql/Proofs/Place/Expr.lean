import Polysql.Draft.Call
import Polysql.Proofs.Place.Move
/-!
Expressions and calls at another place. If the parts of an expression can be moved, so can the
expression: every part and every detour has a lower rank (`Writers.Moves.draftExpr`,
`Writers.Moves.draftCall`).
-/

namespace Polysql

namespace Writers

variable {m : Move} (s : Scope)

@[simp] lemma draft_sequence (op : SequenceOp) (name : Name) :
    m.draft s.dialect (sequence s op name) = sequence (m.scope s) op name := by
  have hcall : m.draft s.dialect (sequenceCall op name) = sequenceCall op name := by
    cases op <;> simp [sequenceCall]
  rw [sequence.eq_def, sequence.eq_def]
  simp only [Move.draft_ite, Move.draft_refuse, Move.scope_has, Move.scope_refuse, hcall,
    Move.scope_family]
  congr 2
  split <;> simp

namespace Moves

variable {w w' : Writers} {n : Nat} (hw : Moves m w w' n)
include hw

/-! ### Expressions -/

lemma exprs {es : List Expr} (h : rankOfExprs es ≤ n) :
    m.draft s.dialect (w.exprs s es) = w'.exprs (m.scope s) es :=
  Move.draft_commas_map fun _ he => hw.expr s (Nat.le_trans (rank_le_rankOfExprs he) h)

lemma row {r : Row} (h : rankOfExprs r ≤ n) :
    m.draft s.dialect (w.row s r) = w'.row (m.scope s) r := by
  simp [Writers.row, hw.exprs s h]

lemma subquery {q : Select} (h : q.rank ≤ n) :
    m.draft s.dialect (w.subquery s q) = w'.subquery (m.scope s) q := by
  have hselect : m.draft s.dialect (w.select s.inQuery q) = w'.select (m.scope s).inQuery q :=
    hw.select s.inQuery h
  simp [Writers.subquery, hselect]

lemma operand {e : Expr} (h : e.rank ≤ n) :
    m.draft s.dialect (w.operand s e) = w'.operand (m.scope s) e := by
  simp [Writers.operand, hw.expr s h]

lemma arith (op : ArithOp) {a b : Expr} (ha : a.rank ≤ n) (hb : b.rank ≤ n) :
    m.draft s.dialect (w.arith s op a b) = w'.arith (m.scope s) op a b := by
  simp [Writers.arith, hw.operand s ha, hw.operand s hb]

lemma neg {e : Expr} (h : e.rank ≤ n) :
    m.draft s.dialect (w.neg s e) = w'.neg (m.scope s) e := by
  rw [Writers.neg.eq_def, Writers.neg.eq_def]
  split <;> simp [hw.expr s h]

section

variable {op : BitOp} {a : Expr} {b? : Option Expr} (h : (Expr.bit op a b?).rank ≤ n + 1)
include h

lemma bitExpanded :
    m.draft s.dialect (w.bitExpanded s op a b?) = w'.bitExpanded (m.scope s) op a b? := by
  rw [Writers.bitExpanded, Writers.bitExpanded]
  split
  next e he =>
    have := Expr.rank_of_expandBit he
    exact hw.expr s (by omega)
  · simp

omit hw in
lemma bitOperand {e : Expr} (he : e ∈ a :: b?.toList) : e.rank ≤ n :=
  Nat.le_of_lt_succ (Nat.lt_of_lt_of_le (Expr.rank_lt_bit he) h)

lemma bitOracle : m.draft s.dialect (w.bitOracle s op a b?) = w'.bitOracle (m.scope s) op a b? := by
  have ha := hw.operand s (bitOperand h List.mem_cons_self)
  have hb (b) (hb : b? = some b) := hw.operand s (e := b) (bitOperand h (by simp [hb]))
  rw [Writers.bitOracle.eq_def, Writers.bitOracle.eq_def]
  split
  · simp [ha, hb _ rfl]
  · simp [ha, hb _ rfl]
  · exact hw.bitExpanded s h

lemma bitSigned : m.draft s.dialect (w.bitSigned s op a b?) = w'.bitSigned (m.scope s) op a b? := by
  have ha := hw.operand s (bitOperand h List.mem_cons_self)
  have hb (b) (hb : b? = some b) := hw.operand s (e := b) (bitOperand h (by simp [hb]))
  rw [Writers.bitSigned.eq_def, Writers.bitSigned.eq_def, Move.scope_family]
  split
  · exact hw.bitExpanded s h
  · simp [ha, hb _ rfl]
  · simp [ha]

lemma bit : m.draft s.dialect (w.bit s op a b?) = w'.bit (m.scope s) op a b? := by
  have hexprs : m.draft s.dialect (w.exprs s (a :: b?.toList)) =
      w'.exprs (m.scope s) (a :: b?.toList) :=
    Move.draft_commas_map fun e he => hw.expr s (bitOperand h he)
  rw [Writers.bit, Writers.bit, Move.scope_family]
  split
  · exact hw.bitExpanded s h
  · split
    · simp
    · exact hw.bitOracle s h
    · split
      · exact hw.bitSigned s h
      · split
        · simp [hexprs]
        · exact hw.bitExpanded s h

end

lemma caseEnd {otherwise? : Option Expr} (h : rankOfOption otherwise? ≤ n) :
    m.draft s.dialect (w.caseEnd s otherwise?) = w'.caseEnd (m.scope s) otherwise? := by
  have helse : m.draft s.dialect (.ofOption (fun e => " ELSE " ++ w.expr s e) otherwise?) =
      .ofOption (fun e => " ELSE " ++ w'.expr (m.scope s) e) otherwise? :=
    Move.draft_ofOption fun e he => by
      subst he
      simp [hw.expr s h]
  simp [Writers.caseEnd, helse]

lemma caseWhen {branches : List (Condition × Expr)} {otherwise? : Option Expr}
    (h : (Expr.caseWhen branches otherwise?).rank ≤ n + 1) :
    m.draft s.dialect (w.caseWhen s branches otherwise?) =
      w'.caseWhen (m.scope s) branches otherwise? := by
  rw [Expr.rank_caseWhen] at h
  have hend := hw.caseEnd s (show rankOfOption otherwise? ≤ n by omega)
  have hbranch (b : Condition × Expr) (hb : b ∈ branches) :
      m.draft s.dialect (" WHEN " ++ w.condition s b.1 ++ " THEN " ++ w.expr s b.2) =
        " WHEN " ++ w'.condition (m.scope s) b.1 ++ " THEN " ++ w'.expr (m.scope s) b.2 := by
    have := rank_le_rankOfBranches hb
    simp [hw.condition s (c := b.1) (by omega), hw.expr s (e := b.2) (by omega)]
  rw [Writers.caseWhen, Move.draft_append, Move.draft_append, Move.draft_text, hend]
  exact congrArg (fun d => "CASE" ++ d ++ w'.caseEnd (m.scope s) otherwise?)
    (Move.draft_concat_map hbranch)

lemma caseOf {operand : Expr} {branches : List (Expr × Expr)} {otherwise? : Option Expr}
    (h : (Expr.caseOf operand branches otherwise?).rank ≤ n + 1) :
    m.draft s.dialect (w.caseOf s operand branches otherwise?) =
      w'.caseOf (m.scope s) operand branches otherwise? := by
  rw [Expr.rank_caseOf] at h
  have hoperand := hw.expr s (e := operand) (by omega)
  have hend := hw.caseEnd s (show rankOfOption otherwise? ≤ n by omega)
  have hbranch (b : Expr × Expr) (hb : b ∈ branches) :
      m.draft s.dialect (" WHEN " ++ w.expr s b.1 ++ " THEN " ++ w.expr s b.2) =
        " WHEN " ++ w'.expr (m.scope s) b.1 ++ " THEN " ++ w'.expr (m.scope s) b.2 := by
    have := rank_le_rankOfCases hb
    simp [hw.expr s (e := b.1) (by omega), hw.expr s (e := b.2) (by omega)]
  rw [Writers.caseOf, Move.draft_append, Move.draft_append, Move.draft_append, Move.draft_text,
    hoperand, hend]
  exact congrArg (fun d => "CASE " ++ w'.expr (m.scope s) operand ++ d ++
    w'.caseEnd (m.scope s) otherwise?) (Move.draft_concat_map hbranch)

lemma cast {e : Expr} {type : DataType} (h : (Expr.cast e type).rank ≤ n + 1) :
    m.draft s.dialect (w.cast s e type) = w'.cast (m.scope s) e type := by
  have hnumber := e.rank_numberAsTruth type
  have htext := e.rank_textAsTruth type
  have he : e.rank ≤ n := by
    rw [Expr.rank_cast] at h
    omega
  have hdirect : m.draft s.dialect (w.castDirect s e type) = w'.castDirect (m.scope s) e type := by
    simp [castDirect, Draft.castType, hw.expr s he]
  simp [Writers.cast, hdirect, hw.expr s (e := e.numberAsTruth) (by omega),
    hw.expr s (e := e.textAsTruth) (by omega)]

lemma conditionValue {c : Condition} (h : (Expr.condition c).rank ≤ n + 1) :
    m.draft s.dialect (w.conditionValue s c) = w'.conditionValue (m.scope s) c := by
  have hcase := c.rank_toCase true false
  have hc : c.rank ≤ n := by
    rw [Expr.rank_condition] at h
    omega
  simp [Writers.conditionValue, hw.condition s hc,
    hw.expr s (e := c.toCase (.truth true) (.truth false)) (by omega)]

/-- The draft of an expression at another place. -/
lemma draftExpr {e : Expr} (h : e.rank ≤ n + 1) :
    m.draft s.dialect (w.draftExpr s e) = w'.draftExpr (m.scope s) e := by
  cases e with
  | constant c => exact m.draft_constant s c
  | field name type => exact m.draft_column s.dialect s name
  | asterisk table? => cases table? <;> simp [Writers.draftExpr]
  | arith op a b =>
    rw [Expr.rank_arith] at h
    exact hw.arith s op (by omega) (by omega)
  | neg e =>
    rw [Expr.rank_neg] at h
    exact hw.neg s (by omega)
  | bit op a b? => exact hw.bit s h
  | call c =>
    rw [Expr.rank_call] at h
    exact hw.call s (by omega)
  | caseWhen branches otherwise? => exact hw.caseWhen s h
  | caseOf operand branches otherwise? => exact hw.caseOf s h
  | cast e type => exact hw.cast s h
  | condition c => exact hw.conditionValue s h
  | subquery q =>
    rw [Expr.rank_subquery] at h
    exact hw.subquery s (by omega)
  | sequence op name => exact draft_sequence s op name
  | columnDefault => exact m.draft_text s.dialect _

/-! ### Calls -/

section

variable {c : Call} (h : c.rank ≤ n + 1)
include h

/-- An argument of a call. -/
lemma arg {e : Expr} (he : e ∈ c.args) :
    m.draft s.dialect (w.expr s e) = w'.expr (m.scope s) e := by
  have := c.rankOfExprs_args_lt
  have := rank_le_rankOfExprs he
  exact hw.expr s (by omega)

lemma arguments : m.draft s.dialect (w.arguments s c) = w'.arguments (m.scope s) c := by
  have hargs := c.rankOfExprs_args_lt
  have hfilter := c.rankOfFilter_lt
  have hwhere : m.draft s.dialect
        (.ofOption (fun f => " FILTER (WHERE " ++ w.condition s f ++ ")") c.filter?) =
      .ofOption (fun f => " FILTER (WHERE " ++ w'.condition (m.scope s) f ++ ")") c.filter? :=
    Move.draft_ofOption fun f hf => by
      rw [hf, rankOfFilter_some] at hfilter
      simp [hw.condition s (c := f) (by omega)]
  simp [Writers.arguments, hwhere, hw.exprs s (show rankOfExprs c.args ≤ n by omega)]

lemma callNamed (name : String) :
    m.draft s.dialect (w.callNamed s name c) = w'.callNamed (m.scope s) name c := by
  simp [Writers.callNamed, hw.arguments s h]

lemma callExpanded {expanded? : Option Expr} (he : ∀ e, expanded? = some e → e.rank < c.rank) :
    m.draft s.dialect (w.callExpanded s expanded?) = w'.callExpanded (m.scope s) expanded? := by
  cases expanded? with
  | none => exact m.draft_fail s.dialect _
  | some e =>
    have := he e rfl
    exact hw.expr s (by omega)

lemma log : m.draft s.dialect (w.log s c) = w'.log (m.scope s) c := by
  have hnamed := hw.callNamed s h "LOG"
  have hexpanded := hw.callExpanded s h fun e => Call.rank_of_expandLog
  rw [Writers.log, Writers.log]
  split
  next base x hargs =>
    have harg (e) (he : e ∈ [base, x]) := hw.arg s h (hargs ▸ he)
    simp [harg, hnamed, hexpanded]
  · simp

lemma leastGreatest : m.draft s.dialect (w.leastGreatest s c) = w'.leastGreatest (m.scope s) c := by
  have hnamed := hw.callNamed s h
  have hexpanded := hw.callExpanded s h fun e => Call.rank_of_expandLeastGreatest
  rw [Writers.leastGreatest, Writers.leastGreatest, Move.scope_family]
  split
  · simp
  next e hargs => exact hw.arg s h (hargs ▸ List.mem_singleton_self e)
  · rw [Move.draft_ite, hnamed, Move.scope_has]
    congr 1
    split <;> simp [hnamed, hexpanded]

lemma trim : m.draft s.dialect (w.trim s c) = w'.trim (m.scope s) c := by
  rw [Writers.trim, Writers.trim, Move.draft_ite, hw.callNamed s h, Move.scope_has]
  congr 1
  split
  next e hargs => simp [hw.arg s h (hargs ▸ List.mem_singleton_self e)]
  · simp

lemma concat : m.draft s.dialect (w.concat s c) = w'.concat (m.scope s) c := by
  have hargs (separator : String) := Move.draft_separated_map separator
    fun e (he : e ∈ c.args) => hw.arg s h he
  rw [Writers.concat, Writers.concat, Move.scope_family]
  split
  next e hargs => exact hw.arg s h (hargs ▸ List.mem_singleton_self e)
  · split <;> simp [hw.callNamed s h, hargs]

lemma substringOf {e start : Expr} {length? : Option Expr} (he : e ∈ c.args)
    (hstart : start ∈ c.args) (hlength : ∀ a, length? = some a → a ∈ c.args) :
    m.draft s.dialect (w.substringOf s c e start length?) =
      w'.substringOf (m.scope s) c e start length? := by
  have he := hw.arg s h he
  have hstart := hw.arg s h hstart
  have hlength (a) (ha : length? = some a) := hw.arg s h (hlength a ha)
  have hfor : m.draft s.dialect (.ofOption (fun n => " FOR " ++ w.expr s n) length?) =
      .ofOption (fun n => " FOR " ++ w'.expr (m.scope s) n) length? :=
    Move.draft_ofOption fun a ha => by simp [hlength a ha]
  rw [Writers.substringOf.eq_def, Writers.substringOf.eq_def, Move.scope_family]
  cases length? with
  | none => split <;> simp [hw.callNamed s h, he, hstart, hfor]
  | some a => split <;> simp [hw.callNamed s h, he, hstart, hlength a rfl, hfor]

lemma substring : m.draft s.dialect (w.substring s c) = w'.substring (m.scope s) c := by
  rw [Writers.substring, Writers.substring]
  split
  next e start hargs =>
    have harg (a) (ha : a ∈ [e, start]) : a ∈ c.args := hargs ▸ ha
    exact hw.substringOf s h (harg e (by simp)) (harg start (by simp)) nofun
  next e start length hargs =>
    have harg (a) (ha : a ∈ [e, start, length]) : a ∈ c.args := hargs ▸ ha
    refine hw.substringOf s h (harg e (by simp)) (harg start (by simp)) ?_
    rintro _ ⟨⟩
    exact harg length (by simp)
  · simp

lemma replicate (hfunc : c.func = .replicate) :
    m.draft s.dialect (w.replicate s c) = w'.replicate (m.scope s) c := by
  have hnamed := hw.callNamed s h
  rw [Writers.replicate, Writers.replicate, Move.scope_family]
  split
  next e k hargs =>
    have harg (a) (ha : a ∈ [e, k]) := hw.arg s h (hargs ▸ ha)
    -- the detour by padding repeats the text, and the rank of the call allows for that
    have hpad : m.draft s.dialect
          (w.expr s (.callOf .padEnd [e, .arith .mul (.callOf .charLength [e]) k, e])) =
        w'.expr (m.scope s) (.callOf .padEnd [e, .arith .mul (.callOf .charLength [e]) k, e]) := by
      refine hw.expr s ?_
      have := e.one_le_rank
      rw [Call.rank_eq, hfunc, hargs] at h
      simp only [Func.height, Expr.rank_callOf, Expr.rank_arith, rankOfExprs_cons,
        rankOfExprs_nil] at h ⊢
      omega
    split <;> simp [harg, hnamed, hpad]
  · simp

end

/-- The filling that SQLite cuts from a blob. -/
lemma blobPadding {e k fill : Expr} (he : e.rank ≤ n) (hk : k.rank ≤ n) (hfill : fill.rank ≤ n) :
    m.draft s.dialect (w.blobPadding s e k fill) = w'.blobPadding (m.scope s) e k fill := by
  simp [Writers.blobPadding, hw.expr s he, hw.expr s hk, hw.expr s hfill]

lemma padWith (atStart : Bool) {e k fill : Expr} (he : e.rank ≤ n) (hk : k.rank ≤ n)
    (hfill : fill.rank ≤ n) :
    m.draft s.dialect (w.padWith s atStart e k fill) =
      w'.padWith (m.scope s) atStart e k fill := by
  have hblob := hw.blobPadding s he hk hfill
  rw [Writers.padWith, Writers.padWith, Move.scope_family]
  cases atStart <;> split <;> simp [hblob, hw.expr s he, hw.expr s hk, hw.expr s hfill]

section

variable {c : Call} (h : c.rank ≤ n + 1)
include h

omit hw in
lemma rank_arg_le {e : Expr} (he : e ∈ c.args) : e.rank ≤ n := by
  have := c.rankOfExprs_args_lt
  have := rank_le_rankOfExprs he
  omega

lemma pad : m.draft s.dialect (w.pad s c) = w'.pad (m.scope s) c := by
  rw [Writers.pad, Writers.pad]
  split
  next e k hargs =>
    have harg (a) (ha : a ∈ [e, k]) := rank_arg_le h (hargs ▸ ha)
    exact hw.padWith s _ (harg e (by simp)) (harg k (by simp))
      (Nat.le_trans e.one_le_rank (harg e (by simp)))
  next e k fill hargs =>
    have harg (a) (ha : a ∈ [e, k, fill]) := rank_arg_le h (hargs ▸ ha)
    exact hw.padWith s _ (harg e (by simp)) (harg k (by simp)) (harg fill (by simp))
  · simp

lemma sidePart : m.draft s.dialect (w.sidePart s c) = w'.sidePart (m.scope s) c := by
  have hnamed := hw.callNamed s h
  dsimp only [Writers.sidePart]
  rw [Move.scope_family]
  split
  next e k hargs =>
    have harg (a) (ha : a ∈ [e, k]) := hw.arg s h (hargs ▸ ha)
    split <;> simp [harg, hnamed]
  · simp

lemma position : m.draft s.dialect (w.position s c) = w'.position (m.scope s) c := by
  rw [Writers.position, Writers.position, Move.scope_family]
  split
  next part e hargs =>
    have harg (a) (ha : a ∈ [part, e]) := hw.arg s h (hargs ▸ ha)
    split <;> simp [harg]
  · simp

lemma nvl2 (hfunc : c.func = .nvl2) :
    m.draft s.dialect (w.nvl2 s c) = w'.nvl2 (m.scope s) c := by
  rw [Writers.nvl2, Writers.nvl2, Move.draft_ite, hw.callNamed s h, Move.scope_has]
  congr 1
  split
  next e present absent hargs =>
    refine hw.expr s ?_
    rw [Call.rank_eq, hfunc, hargs] at h
    have hnull : (Condition.isNull e true).rank = 1 + e.rank := rfl
    simp only [Func.height, rankOfExprs_cons, rankOfExprs_nil, Expr.rank_caseWhen,
      rankOfBranches_cons, rankOfBranches_nil, rankOfOption_some] at h ⊢
    omega
  · simp

/-- A call whose filter the engine can write. -/
lemma callPlain : m.draft s.dialect (w.callPlain s c) = w'.callPlain (m.scope s) c := by
  have hnamed := hw.callNamed s h
  have hhyperbolic := hw.callExpanded s h fun e => Call.rank_of_expandHyperbolic
  have hpower := hw.callExpanded s h fun e => Call.rank_of_expandPower
  dsimp only [Writers.callPlain]
  rw [Move.scope_family]
  -- the functions in the order of the definition; those with detours have lemmas of their own
  split
  · simp [hnamed]
  · simp [hnamed]
  · exact hw.log s h
  · simp [hnamed, hpower]
  · simp [hnamed, hhyperbolic]
  · simp [hnamed, hhyperbolic]
  · simp [hnamed, hhyperbolic]
  · exact hhyperbolic
  · exact hw.leastGreatest s h
  · exact hw.leastGreatest s h
  · exact hw.trim s h
  · exact hnamed _
  · exact hw.concat s h
  · exact hw.substring s h
  next hfunc => exact hw.replicate s h hfunc
  · exact hw.pad s h
  · exact hw.pad s h
  · exact hw.sidePart s h
  · exact hw.sidePart s h
  · exact hw.position s h
  · exact hnamed _
  next hfunc => exact hw.nvl2 s h hfunc
  · simp
  · simp
  · simp
  · simp [hw.arguments s h]
  · exact hnamed _

/-- The draft of a call at another place. -/
lemma draftCall : m.draft s.dialect (w.draftCall s c) = w'.draftCall (m.scope s) c := by
  rw [Writers.draftCall, Writers.draftCall, Move.draft_ite, hw.callPlain s h, Move.scope_has]
  congr 1
  split
  next expanded hexpanded =>
    have := Call.rank_of_expandFilter hexpanded
    exact hw.call s (by omega)
  · exact hw.callPlain s h

end

end Moves

end Writers

end Polysql

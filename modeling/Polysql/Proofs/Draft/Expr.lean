import Polysql.Draft.Call
import Polysql.Proofs.Draft.Manner
/-!
The manner of the drafts of expressions and calls: each is that of its place, if the drafts of the
parts are.
-/

namespace Polysql

namespace Draft

variable (s : Scope)

/-- A constant is bound only where values are. -/
@[simp] lemma follows_constant (c : Constant) : (constant s c).Follows s.manner := by
  cases hs : s.inline <;> simp [constant, Scope.manner, hs, Piece.Follows]

@[simp] lemma follows_castType {m : Manner} (type : DataType) : (castType s type).Follows m := by
  simp [castType]

end Draft

namespace Writers

variable {m : Manner} (s : Scope)

@[simp] lemma follows_sequenceCall (op : SequenceOp) (name : Name) :
    (sequenceCall op name).Follows m := by
  have hname : (Draft.embed .quoted (Draft.qualified name)).Follows m :=
    Draft.follows_embed (n := .written) (by decide) .quoted (Draft.follows_qualified name)
  cases op <;> simp [sequenceCall, hname]

@[simp] lemma follows_sequence (op : SequenceOp) (name : Name) :
    (sequence s op name).Follows m := by
  rw [sequence.eq_def]
  simp only [Draft.follows_ite]
  refine ⟨fun _ => by simp, fun _ => ⟨fun _ => by simp, fun _ => ?_⟩⟩
  split <;> simp

namespace Settled

variable {w : Writers} (hw : w.Settled)
include hw

/-! ### Expressions -/

lemma operand (e : Expr) : (w.operand s e).Follows s.manner := by
  simp [Writers.operand, hw.expr]

lemma arith (op : ArithOp) (a b : Expr) : (w.arith s op a b).Follows s.manner := by
  simp [Writers.arith, hw.operand]

lemma neg (e : Expr) : (w.neg s e).Follows s.manner := by
  rw [Writers.neg.eq_def]
  split <;> simp [hw.expr]

lemma bitExpanded (op : BitOp) (a : Expr) (b? : Option Expr) :
    (w.bitExpanded s op a b?).Follows s.manner := by
  rw [Writers.bitExpanded]
  split <;> simp [hw.expr]

lemma bitOracle (op : BitOp) (a : Expr) (b? : Option Expr) :
    (w.bitOracle s op a b?).Follows s.manner := by
  rw [Writers.bitOracle.eq_def]
  split <;> simp [hw.operand, hw.bitExpanded]

lemma bitSigned (op : BitOp) (a : Expr) (b? : Option Expr) :
    (w.bitSigned s op a b?).Follows s.manner := by
  rw [Writers.bitSigned.eq_def]
  split <;> simp [hw.operand, hw.bitExpanded]

lemma bit (op : BitOp) (a : Expr) (b? : Option Expr) : (w.bit s op a b?).Follows s.manner := by
  rw [Writers.bit]
  split
  · exact hw.bitExpanded s op a b?
  · split
    · simp
    · exact hw.bitOracle s op a b?
    · split
      · exact hw.bitSigned s op a b?
      · split <;> simp [hw.exprs, hw.bitExpanded]

lemma caseEnd (otherwise? : Option Expr) : (w.caseEnd s otherwise?).Follows s.manner := by
  simp [Writers.caseEnd, hw.expr]

lemma caseWhen (branches : List (Condition × Expr)) (otherwise? : Option Expr) :
    (w.caseWhen s branches otherwise?).Follows s.manner := by
  simp [Writers.caseWhen, Draft.follows_concat_map, hw.condition, hw.expr, hw.caseEnd]

lemma caseOf (operand : Expr) (branches : List (Expr × Expr)) (otherwise? : Option Expr) :
    (w.caseOf s operand branches otherwise?).Follows s.manner := by
  simp [Writers.caseOf, Draft.follows_concat_map, hw.expr, hw.caseEnd]

lemma cast (e : Expr) (type : DataType) : (w.cast s e type).Follows s.manner := by
  simp [Writers.cast, castDirect, hw.expr]

lemma conditionValue (c : Condition) : (w.conditionValue s c).Follows s.manner := by
  simp [Writers.conditionValue, hw.condition, hw.expr]

/-- The draft of an expression. -/
lemma draftExpr (e : Expr) : (w.draftExpr s e).Follows s.manner := by
  rw [Writers.draftExpr.eq_def]
  split <;>
    simp [hw.arith, hw.neg, hw.bit, hw.call, hw.caseWhen, hw.caseOf, hw.cast, hw.conditionValue,
      hw.subquery]

/-! ### Calls -/

lemma arguments (c : Call) : (w.arguments s c).Follows s.manner := by
  simp [Writers.arguments, hw.exprs, hw.condition]

lemma callNamed (name : String) (c : Call) : (w.callNamed s name c).Follows s.manner := by
  simp [Writers.callNamed, hw.arguments]

lemma callExpanded (expanded? : Option Expr) :
    (w.callExpanded s expanded?).Follows s.manner := by
  cases expanded? <;> simp [Writers.callExpanded, hw.expr]

lemma log (c : Call) : (w.log s c).Follows s.manner := by
  rw [Writers.log]
  split <;> simp [hw.callNamed, hw.callExpanded, hw.expr]

lemma leastGreatest (c : Call) : (w.leastGreatest s c).Follows s.manner := by
  rw [Writers.leastGreatest]
  split
  · simp
  · exact hw.expr s _
  · simp only [Draft.follows_ite]
    refine ⟨fun _ => hw.callNamed s _ c, fun _ => ?_⟩
    split <;> simp [hw.callNamed, hw.callExpanded]

lemma trim (c : Call) : (w.trim s c).Follows s.manner := by
  rw [Writers.trim]
  simp only [Draft.follows_ite]
  refine ⟨fun _ => ?_, fun _ => hw.callNamed s _ c⟩
  split <;> simp [hw.expr]

lemma concat (c : Call) : (w.concat s c).Follows s.manner := by
  have hargs (separator : String) :=
    Draft.follows_separated_map separator (w.expr s) fun e (_ : e ∈ c.args) => hw.expr s e
  rw [Writers.concat]
  split
  · exact hw.expr s _
  · split <;> simp [hw.callNamed, hargs]

lemma substringOf (c : Call) (e start : Expr) (length? : Option Expr) :
    (w.substringOf s c e start length?).Follows s.manner := by
  rw [Writers.substringOf.eq_def]
  split <;> cases length? <;> simp [hw.callNamed, hw.expr]

lemma substring (c : Call) : (w.substring s c).Follows s.manner := by
  rw [Writers.substring]
  split <;> simp [hw.substringOf]

lemma replicate (c : Call) : (w.replicate s c).Follows s.manner := by
  rw [Writers.replicate]
  split
  · split <;> simp [hw.callNamed, hw.expr]
  · simp

lemma blobPadding (e n fill : Expr) : (w.blobPadding s e n fill).Follows s.manner := by
  simp [Writers.blobPadding, hw.expr]

lemma padWith (atStart : Bool) (e n fill : Expr) :
    (w.padWith s atStart e n fill).Follows s.manner := by
  rw [Writers.padWith]
  split <;> cases atStart <;> simp [hw.expr, hw.blobPadding]

lemma pad (c : Call) : (w.pad s c).Follows s.manner := by
  rw [Writers.pad]
  split <;> simp [hw.padWith]

lemma sidePart (c : Call) : (w.sidePart s c).Follows s.manner := by
  dsimp only [Writers.sidePart]
  split
  · split <;> simp [hw.callNamed, hw.expr]
  · simp

lemma position (c : Call) : (w.position s c).Follows s.manner := by
  rw [Writers.position]
  split
  · split <;> simp [hw.expr]
  · simp

lemma nvl2 (c : Call) : (w.nvl2 s c).Follows s.manner := by
  rw [Writers.nvl2]
  simp only [Draft.follows_ite]
  refine ⟨fun _ => hw.callNamed s _ c, fun _ => ?_⟩
  split <;> simp [hw.expr]

lemma callPlain (c : Call) : (w.callPlain s c).Follows s.manner := by
  rw [Writers.callPlain]
  split <;>
    simp [hw.callNamed, hw.callExpanded, hw.arguments, hw.log, hw.leastGreatest, hw.trim,
      hw.concat, hw.substring, hw.replicate, hw.pad, hw.sidePart, hw.position, hw.nvl2]

/-- The draft of a call. -/
lemma draftCall (c : Call) : (w.draftCall s c).Follows s.manner := by
  rw [Writers.draftCall]
  simp only [Draft.follows_ite]
  refine ⟨fun _ => hw.callPlain s c, fun _ => ?_⟩
  split
  · exact hw.call s _
  · exact hw.callPlain s c

end Settled

end Writers

end Polysql

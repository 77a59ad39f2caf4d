import Polysql.Proofs.Reading.Written
/-!
Numeric expressions whose operands keep together. An operand that the engine has spelled out as an
operation gets no parentheses. Where there is no such operand, the tree of the expression fits
(`Expr.Guarded.fitsAt`).
-/

namespace Polysql

open Polysql.Tree

/-! ### Operands -/

namespace Tree

/-- The tree is an operation on two numbers. -/
def IsOperation : Tree → Prop
  | binary (.arith _) _ _ | binary (.bitwise _) _ _ => True
  | _ => False

variable {p : Precedence}

lemma tight_call {f : String} (hf : f ∉ operatorWords) {ts : List Tree} (hts : AllFit p ts) :
    (Tree.call f ts).Tight p where
  fits := ⟨hf, hts, trivial, trivial, by simp, by simp, fun _ => trivial⟩
  above := ⟨(by decide : 40 < 60), trivial, trivial⟩
  leftOf {op} (h : op.level p ≤ 40) := show op.level p ≤ 60 by omega
  closed := rfl

lemma Tight.unary {t : Tree} (h : t.Tight p) {q : Unary} (hq : q.level = 40) :
    (Tree.unary q t).Tight p where
  fits := ⟨h.fits, by rw [hq]; exact h.above⟩
  above := h.above
  leftOf {op} (hop : op.level p ≤ 40) := show op.level p ≤ q.level by omega
  closed := h.closed

/-- An operation on two operands. -/
lemma Tight.operation {op : Operator} {l r : Tree} (hl : l.Tight p) (hr : r.Tight p)
    (hop : op.level p ≤ 40) (hand : op ≠ .and) (hupper : op ≠ .upper) :
    (Tree.binary op l r).Fits p := by
  have happly : op ≠ .apply := by
    rintro rfl
    rw [Operator.level] at hop
    omega
  exact fits_binary hl.fits hr.fits (hl.leftOf hop) (hr.above.mono hop) hand hupper happly

lemma level_arith_le (op : ArithOp) : (Operator.arith op).level p ≤ 40 := by
  cases op <;> simp [Operator.level]

lemma Tight.arith {l r : Tree} (hl : l.Tight p) (op : ArithOp) (hr : r.Tight p) :
    (Tree.binary (.arith op) l r).Fits p :=
  hl.operation hr (level_arith_le op) (by simp) (by simp)

lemma Tight.bitwise {l r : Tree} (hl : l.Tight p) (sign : BitSign) (hr : r.Tight p) :
    (Tree.binary (.bitwise sign) l r).Fits p :=
  hl.operation hr (Nat.le_of_lt (p.bitwise_lt sign)) (by simp) (by simp)

end Tree

/-! ### Functions -/

lemma functionName_notMem {s : Scope} {f : Func} (hf : f.isNumeric) :
    s.functionName f ∉ operatorWords := by
  rw [Scope.functionName]
  split
  · decide
  · cases f <;> first | decide | cases hf

lemma bitFunction_notMem {f : Family} {name? : BitOp → Option String} {op : BitOp} {name : String}
    (h : f.bitFunction? = some name?) (hname : name? op = some name) : name ∉ operatorWords := by
  cases f <;> cases h <;> cases op <;> cases hname <;> decide

/-! ### Expressions -/

namespace Expr

/-- As an operand, the expression is no operation, or stands in parentheses. -/
def Enclosed (s : Scope) (e : Expr) : Prop :=
  ∀ t, WrittenOperand s e t → ¬t.IsOperation

/-- No operand in the expression, or in what the engine has it spelled out as, is an operation
without parentheses. -/
inductive Guarded (s : Scope) : Expr → Prop
  | constant (c : Constant) : Guarded s (.constant c)
  | field (n : Name) (type : DataType) : Guarded s (.field n type)
  | arith {a b : Expr} (op : ArithOp) (h : ∀ e ∈ [a, b], Guarded s e)
    (henclosed : ∀ e ∈ [a, b], e.Enclosed s) : Guarded s (.arith op a b)
  | neg {e : Expr} (he : Guarded s e) : Guarded s (.neg e)
  | bit {op : BitOp} {a : Expr} {b? : Option Expr}
    (hnone : s.spelledOut? (.bit op a b?) = none) (h : ∀ e ∈ a :: b?.toList, Guarded s e)
    (henclosed : ∀ e ∈ a :: b?.toList, e.Enclosed s) : Guarded s (.bit op a b?)
  | call {f : Func} {args : List Expr} (hf : f.isNumeric)
    (hnone : s.callSpelledOut? ⟨f, args, false, none⟩ = none) (h : ∀ e ∈ args, Guarded s e) :
    Guarded s (.call ⟨f, args, false, none⟩)
  | spelledOut {e e' : Expr} (he : s.spelledOut? e = some e') (h : Guarded s e') : Guarded s e

variable {p : Precedence} {s : Scope}

/-- The trees of an expression fit, and are operands themselves unless they are operations. -/
def FitsAt (p : Precedence) (s : Scope) (e : Expr) : Prop :=
  ∀ t, Written s e t → t.Fits p ∧ (¬t.IsOperation → t.Tight p)

/-- An operand that keeps together binds tight. -/
lemma WrittenOperand.tight {e : Expr} {t : Tree} (ht : WrittenOperand s e t) (he : e.FitsAt p s)
    (henclosed : e.Enclosed s) : t.Tight p := by
  have hoperation := henclosed t ht
  cases ht with
  | bare _ ht => exact (he t ht).2 hoperation
  | parenthesized _ ht => exact tight_group ⟨(he _ ht).1, trivial⟩

lemma WrittenAll.allFit {es : List Expr} : ∀ {ts : List Tree}, WrittenAll s es ts →
    (∀ e ∈ es, e.FitsAt p s) → AllFit p ts := by
  induction es with
  | nil =>
    intro ts hts _
    cases hts
    trivial
  | cons e es ih =>
    intro ts hts h
    obtain ⟨he, hes⟩ := List.forall_mem_cons.mp h
    cases hts with
    | cons ht hts => exact ⟨(he _ ht).1, ih hts hes⟩

/-- What is not spelled out fits if it does as the engine has it. -/
lemma fitsAt_of_direct {e : Expr} (hnone : s.spelledOut? e = none)
    (h : ∀ t, WrittenDirectly s e t → t.Fits p ∧ (¬t.IsOperation → t.Tight p)) : e.FitsAt p s := by
  intro t ht
  cases ht with
  | direct _ ht => exact h t ht
  | spelledOut he =>
    rw [hnone] at he
    cases he

variable {t : Tree}

lemma fits_of_tight (h : t.Tight p) : t.Fits p ∧ (¬t.IsOperation → t.Tight p) :=
  ⟨h.fits, fun _ => h⟩

lemma fits_of_operation (h : t.Fits p) (hoperation : t.IsOperation) :
    t.Fits p ∧ (¬t.IsOperation → t.Tight p) :=
  ⟨h, (absurd hoperation ·)⟩

lemma fitsAt_arith {op : ArithOp} {a b : Expr} (h : ∀ e ∈ [a, b], e.FitsAt p s)
    (henclosed : ∀ e ∈ [a, b], e.Enclosed s) : (Expr.arith op a b).FitsAt p s := by
  have hoperand {e : Expr} (he : e ∈ [a, b]) {t : Tree} (ht : WrittenOperand s e t) : t.Tight p :=
    ht.tight (h e he) (henclosed e he)
  refine fitsAt_of_direct rfl fun t ht => ?_
  cases ht with
  | arith _ ha hb =>
    have ha := hoperand List.mem_cons_self ha
    have hb := hoperand (List.mem_cons_of_mem a List.mem_cons_self) hb
    exact fits_of_operation (ha.arith op hb) trivial
  | mod _ ha hb =>
    have ha := hoperand List.mem_cons_self ha
    have hb := hoperand (List.mem_cons_of_mem a List.mem_cons_self) hb
    exact fits_of_tight (tight_call (by decide) ⟨ha.fits, hb.fits, trivial⟩)

lemma Written.tight_field {n : Name} {type : DataType} (ht : Written s (.field n type) t) :
    t.Tight p := by
  cases ht with
  | direct _ ht =>
    cases ht
    exact tight_name _ _
  | spelledOut he => cases he

lemma fitsAt_neg {e : Expr} (h : e.FitsAt p s) : (Expr.neg e).FitsAt p s := by
  refine fitsAt_of_direct rfl fun t ht => ?_
  cases ht with
  | negColumn ht => exact fits_of_tight (ht.tight_field.unary rfl)
  | @neg _ u _ ht =>
    have hgroup : (group [u]).Tight p := tight_group ⟨(h u ht).1, trivial⟩
    exact fits_of_tight (hgroup.unary rfl)

lemma fitsAt_bit {op : BitOp} {a : Expr} {b? : Option Expr}
    (hnone : s.spelledOut? (.bit op a b?) = none) (h : ∀ e ∈ a :: b?.toList, e.FitsAt p s)
    (henclosed : ∀ e ∈ a :: b?.toList, e.Enclosed s) : (Expr.bit op a b?).FitsAt p s := by
  have hoperand {e : Expr} (he : e ∈ a :: b?.toList) {t : Tree} (ht : WrittenOperand s e t) :
      t.Tight p :=
    ht.tight (h e he) (henclosed e he)
  refine fitsAt_of_direct hnone fun t ht => ?_
  -- whatever form it is written in, the operands are tight, since weak ones are enclosed
  cases ht with
  | bit _ _ _ ha hb =>
    have ha := hoperand List.mem_cons_self ha
    have hb := hoperand (List.mem_cons_of_mem a List.mem_cons_self) hb
    exact fits_of_operation (ha.bitwise _ hb) trivial
  | complement _ ha => exact fits_of_tight ((hoperand List.mem_cons_self ha).unary rfl)
  | bitFunction hfunction hf hts =>
    exact fits_of_tight (tight_call (bitFunction_notMem hfunction hf) (hts.allFit h))
  | bitAnd _ ha hb =>
    have ha := hoperand List.mem_cons_self ha
    have hb := hoperand (List.mem_cons_of_mem a List.mem_cons_self) hb
    exact fits_of_tight (tight_call (by decide) ⟨ha.fits, hb.fits, trivial⟩)
  | @bitOr _ _ t u _ ha hb =>
    have ha := hoperand List.mem_cons_self ha
    have hb := hoperand (List.mem_cons_of_mem a List.mem_cons_self) hb
    have hand : (Tree.call "BITAND" [t, u]).Tight p :=
      tight_call (by decide) ⟨ha.fits, hb.fits, trivial⟩
    -- the sum and its remainder are enclosed as a whole
    have hdifference : (binary (.arith .sub) (binary (.arith .add) t u)
        (.call "BITAND" [t, u])).Fits p :=
      fits_binary (ha.arith .add hb) hand.fits (Nat.le_refl 20)
        (hand.above.mono (level_arith_le .sub)) (by simp) (by simp) (by simp)
    exact fits_of_tight (tight_group ⟨hdifference, trivial⟩)

lemma fitsAt_call {f : Func} {args : List Expr} (hf : f.isNumeric)
    (hnone : s.callSpelledOut? ⟨f, args, false, none⟩ = none) (h : ∀ e ∈ args, e.FitsAt p s) :
    (Expr.call ⟨f, args, false, none⟩).FitsAt p s := by
  refine fitsAt_of_direct hnone fun t ht => ?_
  cases ht with
  | call _ hts => exact fits_of_tight (tight_call (functionName_notMem hf) (hts.allFit h))
  | log _ hx hbase =>
    obtain ⟨hbasefits, hxfits⟩ := List.forall_mem_cons.mp h
    have hx := (List.forall_mem_singleton.mp hxfits _ hx).1
    exact fits_of_tight (tight_call (by decide) ⟨hx, (hbasefits _ hbase).1, trivial⟩)

/-- **Guarded expressions fit.** -/
theorem Guarded.fitsAt {e : Expr} (h : e.Guarded s) : e.FitsAt p s := by
  induction h with
  | constant c =>
    refine fitsAt_of_direct rfl fun t ht => ?_
    cases ht
    exact fits_of_tight (tight_value c)
  | field n type => exact fun t ht => fits_of_tight ht.tight_field
  | arith op _ henclosed ih => exact fitsAt_arith ih henclosed
  | neg _ ih => exact fitsAt_neg ih
  | bit hnone _ henclosed ih => exact fitsAt_bit hnone ih henclosed
  | call hf hnone _ ih => exact fitsAt_call hf hnone ih
  | spelledOut he _ ih =>
    intro t ht
    -- what is spelled out is not written directly, so both detours are the same
    cases ht with
    | direct hnone =>
      rw [hnone] at he
      cases he
    | spelledOut he' ht =>
      rw [he] at he'
      cases he'
      exact ih t ht

end Expr

end Polysql

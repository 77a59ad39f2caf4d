import Polysql.Draft.Call
import Polysql.Proofs.Reading.Operand
/-!
Numeric expressions and their trees. An engine writes an expression with the operands that it has,
once the operations that the engine lacks are spelled out by others (`Expr.Written`). This makes up
a single tree (`Expr.Written.unique`).
-/

namespace Polysql

/-! ### Numeric expressions -/

/-- The functions that engines have names or operators for. -/
def Func.isNumeric : Func → Bool
  | .exp | .ln | .log | .power | .sinh | .cosh | .tanh | .coth => true
  | _ => false

namespace Expr

/-- The expression is made of constants, columns, arithmetic, bitwise operations and numeric
functions. -/
inductive Numeric : Expr → Prop
  | constant (c : Constant) : Numeric (.constant c)
  | field {n : Name} (hn : n.parts ≠ []) (type : DataType) : Numeric (.field n type)
  | arith {a b : Expr} (op : ArithOp) (ha : Numeric a) (hb : Numeric b) : Numeric (.arith op a b)
  | neg {e : Expr} (he : Numeric e) : Numeric (.neg e)
  | bit {op : BitOp} {a b : Expr} (hop : op ≠ .not) (ha : Numeric a) (hb : Numeric b) :
    Numeric (.bit op a (some b))
  | complement {a : Expr} (ha : Numeric a) : Numeric (.bit .not a none)
  | call {f : Func} {args : List Expr} (hf : f.isNumeric) (hargs : ∀ e ∈ args, Numeric e) :
    Numeric (.call ⟨f, args, false, none⟩)

end Expr

/-! ### What engines write in other ways -/

/-- The family has a way to write a bitwise operation. -/
def Family.writesBit (f : Family) (op : BitOp) : Bool :=
  if f = .oracle then op = .and || op = .or
  else match f.bitFunction? with
    | some name? => (name? op).isSome
    | none => (f.bitSign? op).isSome

namespace Scope

/-- A logarithm has its base behind. -/
def baseBehind (s : Scope) : Bool :=
  !s.has Feature.logWithBase && s.family = .sqlServer

/-- What a function is spelled out as, if the engine lacks it. -/
def callSpelledOut? (s : Scope) (c : Call) : Option Expr :=
  match c.func with
  | .log => if s.has Feature.logWithBase || s.baseBehind then none else c.expandLog
  | .power => if s.has Feature.withoutPower then c.expandPower else none
  | .sinh | .cosh | .tanh => if s.has Feature.hyperbolic then none else c.expandHyperbolic
  | .coth => c.expandHyperbolic
  | _ => none

/-- What an operation is spelled out as, if the engine lacks it. -/
def spelledOut? (s : Scope) : Expr → Option Expr
  | .bit op a b? => if s.family.writesBit op then none else Expr.expandBit op a b?
  | .call c => s.callSpelledOut? c
  | _ => none

/-- The name of a numeric function. -/
def functionName (s : Scope) (f : Func) : String :=
  if f = .ln ∧ s.family.isSqlServerLike then "LOG" else f.upperName

end Scope

/-! ### Bitwise operations that families have -/

section

variable {f : Family} {op : BitOp}

lemma bitFunction?_oracle (h : f = .oracle) : f.bitFunction? = none := by
  rw [h]
  rfl

lemma writesBit_oracle (h : f = .oracle) (hop : (op = .and || op = .or) = true) :
    f.writesBit op = true := by
  rw [Family.writesBit, if_pos h, hop]

lemma writesBit_of_function {name? : BitOp → Option String} {name : String} (h : f ≠ .oracle)
    (hfunction : f.bitFunction? = some name?) (hname : name? op = some name) :
    f.writesBit op = true := by
  rw [Family.writesBit, if_neg h, hfunction]
  exact congrArg Option.isSome hname

lemma writesBit_of_sign {text : String} (h : f ≠ .oracle) (hfunction : f.bitFunction? = none)
    (hsign : f.bitSign? op = some text) : f.writesBit op = true := by
  rw [Family.writesBit, if_neg h, hfunction, hsign]
  rfl

/-- No family has a way of its own to write negated operations. -/
lemma writesBit_derived (h : op = .nand ∨ op = .nor ∨ op = .xnor) : f.writesBit op = false := by
  rcases h with rfl | rfl | rfl <;> cases f <;> rfl

/-- A bitwise operation that the engine has is not spelled out. -/
lemma spelledOut?_bit {s : Scope} {a : Expr} {b? : Option Expr}
    (h : s.family.writesBit op = true) : s.spelledOut? (.bit op a b?) = none := by
  rw [Scope.spelledOut?, if_pos h]

end

/-! ### The trees of expressions -/

/-- A function with its arguments. -/
def Tree.call (f : String) (ts : List Tree) : Tree :=
  .binary .apply (.word f) (.group ts)

namespace Expr

mutual

/-- The tree of an expression at a place: every operator has the operands that it has in the
expression, or in what the engine has the expression spelled out as. -/
inductive Written (s : Scope) : Expr → Tree → Prop
  | direct {e : Expr} {t : Tree} (he : s.spelledOut? e = none) (h : WrittenDirectly s e t) :
    Written s e t
  | spelledOut {e e' : Expr} {t : Tree} (he : s.spelledOut? e = some e') (h : Written s e' t) :
    Written s e t

/-- The tree of an expression that the engine has. -/
inductive WrittenDirectly (s : Scope) : Expr → Tree → Prop
  | constant (c : Constant) : WrittenDirectly s (.constant c) (.value c)
  | field {n : Name} {m : NamePart} {ms : List NamePart} (h : n.shown s.qualify = ⟨m :: ms⟩)
    (type : DataType) : WrittenDirectly s (.field n type) (.name m ms)
  | arith {op : ArithOp} {a b : Expr} {t u : Tree} (h : ¬(op = .mod ∧ s.family.hasModFunction))
    (ha : WrittenOperand s a t) (hb : WrittenOperand s b u) :
    WrittenDirectly s (.arith op a b) (.binary (.arith op) t u)
  | mod {a b : Expr} {t u : Tree} (h : s.family.hasModFunction) (ha : WrittenOperand s a t)
    (hb : WrittenOperand s b u) : WrittenDirectly s (.arith .mod a b) (.call "MOD" [t, u])
  | negColumn {n : Name} {type : DataType} {t : Tree} (h : Written s (.field n type) t) :
    WrittenDirectly s (.neg (.field n type)) (.unary .minus t)
  | neg {e : Expr} {t : Tree} (he : ∀ n type, e ≠ .field n type) (h : Written s e t) :
    WrittenDirectly s (.neg e) (.unary .minus (.group [t]))
  | bit {op : BitOp} {sign : BitSign} {a b : Expr} {t u : Tree} (h : s.family ≠ .oracle)
    (hfunction : s.family.bitFunction? = none) (hsign : s.family.bitSign? op = some sign.text)
    (ha : WrittenOperand s a t) (hb : WrittenOperand s b u) :
    WrittenDirectly s (.bit op a (some b)) (.binary (.bitwise sign) t u)
  | complement {a : Expr} {t : Tree} (hfunction : s.family.bitFunction? = none)
    (ha : WrittenOperand s a t) : WrittenDirectly s (.bit .not a none) (.unary .complement t)
  | bitFunction {op : BitOp} {a : Expr} {b? : Option Expr} {name? : BitOp → Option String}
    {f : String} {ts : List Tree} (hfunction : s.family.bitFunction? = some name?)
    (hf : name? op = some f) (hts : WrittenAll s (a :: b?.toList) ts) :
    WrittenDirectly s (.bit op a b?) (.call f ts)
  | bitAnd {a b : Expr} {t u : Tree} (h : s.family = .oracle) (ha : WrittenOperand s a t)
    (hb : WrittenOperand s b u) : WrittenDirectly s (.bit .and a (some b)) (.call "BITAND" [t, u])
  /-- A disjunction of bits as a sum. -/
  | bitOr {a b : Expr} {t u : Tree} (h : s.family = .oracle) (ha : WrittenOperand s a t)
    (hb : WrittenOperand s b u) : WrittenDirectly s (.bit .or a (some b)) (.group
      [.binary (.arith .sub) (.binary (.arith .add) t u) (.call "BITAND" [t, u])])
  | call {f : Func} {args : List Expr} {ts : List Tree} (h : f = .log → s.baseBehind = false)
    (hts : WrittenAll s args ts) :
    WrittenDirectly s (.call ⟨f, args, false, none⟩) (.call (s.functionName f) ts)
  | log {base x : Expr} {t u : Tree} (h : s.baseBehind) (hx : Written s x t)
    (hbase : Written s base u) :
    WrittenDirectly s (.call ⟨.log, [base, x], false, none⟩) (.call "LOG" [t, u])

/-- The tree of an operand. It is in parentheses if the operand is an operator itself. -/
inductive WrittenOperand (s : Scope) : Expr → Tree → Prop
  | bare {e : Expr} {t : Tree} (he : e.isBinary = false) (h : Written s e t) :
    WrittenOperand s e t
  | parenthesized {e : Expr} {t : Tree} (he : e.isBinary = true) (h : Written s e t) :
    WrittenOperand s e (.group [t])

/-- The trees of several expressions. -/
inductive WrittenAll (s : Scope) : List Expr → List Tree → Prop
  | nil : WrittenAll s [] []
  | cons {e : Expr} {es : List Expr} {t : Tree} {ts : List Tree} (h : Written s e t)
    (hs : WrittenAll s es ts) : WrittenAll s (e :: es) (t :: ts)

end

/-! ### One tree for an expression -/

/-- Two signs that are written alike are one. -/
lemma bitSign_eq {sign sign' : BitSign} (h : sign.text = sign'.text) : sign = sign' := by
  cases sign <;> cases sign' <;> first | rfl | (simp [BitSign.text] at h)

mutual

/-- An expression has a single tree at a place. -/
theorem Written.unique {s : Scope} : ∀ {e : Expr} {t u : Tree}, Written s e t → Written s e u →
    t = u
  | _, _, _, .direct he h, h' => by
    cases h' with
    | direct _ h' => exact h.unique h'
    | spelledOut he' =>
      rw [he] at he'
      cases he'
  | _, _, _, .spelledOut he h, h' => by
    cases h' with
    | direct he' =>
      rw [he] at he'
      cases he'
    | spelledOut he' h' =>
      rw [he] at he'
      cases he'
      exact h.unique h'
termination_by structural _ _ _ h => h

theorem WrittenDirectly.unique {s : Scope} : ∀ {e : Expr} {t u : Tree}, WrittenDirectly s e t →
    WrittenDirectly s e u → t = u
  | _, _, _, .constant c, h => by
    cases h
    rfl
  | _, _, _, .field hn type, h => by
    -- by recursion on how `e` is written; two forms of one expression differ in a fact about the
    -- engine, which each of them carries with it
    cases h with
    | field hn' =>
      rw [hn] at hn'
      cases hn'
      rfl
  | _, _, _, .arith hmod ha hb, h => by
    cases h with
    | arith _ ha' hb' => rw [ha.unique ha', hb.unique hb']
    | mod hmod' => exact absurd ⟨rfl, hmod'⟩ hmod
  | _, _, _, .mod hmod ha hb, h => by
    cases h with
    | arith hmod' => exact absurd ⟨rfl, hmod⟩ hmod'
    | mod _ ha' hb' => rw [ha.unique ha', hb.unique hb']
  | _, _, _, .negColumn h, h' => by
    cases h' with
    | negColumn h' => rw [h.unique h']
    | neg he => exact absurd rfl (he _ _)
  | _, _, _, .neg he h, h' => by
    cases h' with
    | negColumn => exact absurd rfl (he _ _)
    | neg _ h' => rw [h.unique h']
  | _, _, _, .bit h hfunction hsign ha hb, h' => by
    cases h' with
    | bit _ _ hsign' ha' hb' =>
      rw [hsign] at hsign'
      rw [bitSign_eq (Option.some.inj hsign'), ha.unique ha', hb.unique hb']
    | bitFunction hfunction' =>
      rw [hfunction] at hfunction'
      cases hfunction'
    | bitAnd h' => exact absurd h' h
    | bitOr h' => exact absurd h' h
  | _, _, _, .complement hfunction ha, h' => by
    cases h' with
    | complement _ ha' => rw [ha.unique ha']
    | bitFunction hfunction' =>
      rw [hfunction] at hfunction'
      cases hfunction'
  | _, _, _, .bitFunction hfunction hf hts, h' => by
    cases h' with
    | bit _ hfunction' =>
      rw [hfunction] at hfunction'
      cases hfunction'
    | complement hfunction' =>
      rw [hfunction] at hfunction'
      cases hfunction'
    | bitFunction hfunction' hf' hts' =>
      rw [hfunction] at hfunction'
      cases hfunction'
      rw [hf] at hf'
      cases hf'
      rw [hts.unique hts']
    | bitAnd h' =>
      rw [bitFunction?_oracle h'] at hfunction
      cases hfunction
    | bitOr h' =>
      rw [bitFunction?_oracle h'] at hfunction
      cases hfunction
  | _, _, _, .bitAnd h ha hb, h' => by
    cases h' with
    | bit h' => exact absurd h h'
    | bitFunction hfunction =>
      rw [bitFunction?_oracle h] at hfunction
      cases hfunction
    | bitAnd _ ha' hb' => rw [ha.unique ha', hb.unique hb']
  | _, _, _, .bitOr h ha hb, h' => by
    cases h' with
    | bit h' => exact absurd h h'
    | bitFunction hfunction =>
      rw [bitFunction?_oracle h] at hfunction
      cases hfunction
    | bitOr _ ha' hb' => rw [ha.unique ha', hb.unique hb']
  | _, _, _, .call hlog hts, h' => by
    cases h' with
    | call _ hts' => rw [hts.unique hts']
    | log h' =>
      rw [hlog rfl] at h'
      cases h'
  | _, _, _, .log h hx hbase, h' => by
    cases h' with
    | call hlog =>
      rw [hlog rfl] at h
      cases h
    | log _ hx' hbase' => rw [hx.unique hx', hbase.unique hbase']
termination_by structural _ _ _ h => h

theorem WrittenOperand.unique {s : Scope} : ∀ {e : Expr} {t u : Tree}, WrittenOperand s e t →
    WrittenOperand s e u → t = u
  | _, _, _, .bare he h, h' => by
    cases h' with
    | bare _ h' => exact h.unique h'
    | parenthesized he' =>
      rw [he] at he'
      cases he'
  | _, _, _, .parenthesized he h, h' => by
    cases h' with
    | bare he' =>
      rw [he] at he'
      cases he'
    | parenthesized _ h' => rw [h.unique h']
termination_by structural _ _ _ h => h

theorem WrittenAll.unique {s : Scope} : ∀ {es : List Expr} {ts us : List Tree},
    WrittenAll s es ts → WrittenAll s es us → ts = us
  | _, _, _, .nil, h => by
    cases h
    rfl
  | _, _, _, .cons h hs, h' => by
    cases h' with
    | cons h' hs' => rw [h.unique h', hs.unique hs']
termination_by structural _ _ _ h => h

end

/-! ### Expressions that are spelled out -/

lemma Numeric.number (n : Nat) : Numeric (.number n) :=
  .constant _

lemma Numeric.callOf {f : Func} (hf : f.isNumeric) {e : Expr} (he : Numeric e) :
    Numeric (.callOf f [e]) :=
  .call hf (List.forall_mem_singleton.mpr he)

lemma Numeric.complementOf {e : Expr} (he : Numeric e) : Numeric e.complement :=
  .arith .sub (.neg he) (.number 1)

lemma Numeric.exclusiveOr {a b : Expr} (ha : Numeric a) (hb : Numeric b) :
    Numeric (exclusiveOr a b) :=
  .arith .sub (.bit (by decide) ha hb) (.bit (by decide) ha hb)

/-- What a bitwise operation is spelled out as is numeric again. -/
lemma numeric_of_expandBit {op : BitOp} {a e : Expr} {b? : Option Expr} (ha : Numeric a)
    (hb : ∀ b, b? = some b → Numeric b) (he : expandBit op a b? = some e) : Numeric e := by
  have hright : Numeric (b?.getD null) := by
    cases b? with
    | none => exact .constant _
    | some b => exact hb b rfl
  -- what the detours are made of
  have hand : Numeric (bit .and a (some (b?.getD null))) := .bit (by decide) ha hright
  have hor : Numeric (bit .or a (some (b?.getD null))) := .bit (by decide) ha hright
  have hpower : Numeric (Expr.callOf .power [number 2, b?.getD null]) :=
    .call rfl (List.forall_mem_cons.mpr ⟨.number 2, List.forall_mem_singleton.mpr hright⟩)
  cases op with
  | and | or => cases he
  | xor =>
    cases he
    exact ha.exclusiveOr hright
  | not =>
    cases he
    exact ha.complementOf
  | nand =>
    cases he
    exact hand.complementOf
  | nor =>
    cases he
    exact hor.complementOf
  | xnor =>
    cases he
    exact (ha.exclusiveOr hright).complementOf
  | shiftLeft =>
    cases he
    exact .arith .mul ha hpower
  | shiftRight =>
    cases he
    exact .arith .div ha hpower

lemma numeric_of_expandLog {f : Func} {args : List Expr} {e : Expr}
    (hargs : ∀ a ∈ args, Numeric a) (he : Call.expandLog ⟨f, args, false, none⟩ = some e) :
    Numeric e := by
  rw [Call.expandLog] at he
  split at he
  next _ base x _ hpair =>
    cases he
    obtain rfl : args = [base, x] := hpair
    obtain ⟨hbase, hx⟩ := List.forall_mem_cons.mp hargs
    exact .arith .div (.callOf rfl (List.forall_mem_singleton.mp hx)) (.callOf rfl hbase)
  next => cases he

lemma numeric_of_expandPower {f : Func} {args : List Expr} {e : Expr}
    (hargs : ∀ a ∈ args, Numeric a) (he : Call.expandPower ⟨f, args, false, none⟩ = some e) :
    Numeric e := by
  rw [Call.expandPower] at he
  split at he
  next _ a b _ hpair =>
    cases he
    obtain rfl : args = [a, b] := hpair
    obtain ⟨ha, hb⟩ := List.forall_mem_cons.mp hargs
    exact .callOf rfl (.arith .mul (.callOf rfl ha) (List.forall_mem_singleton.mp hb))
  next => cases he

lemma numeric_of_expandHyperbolic {f : Func} {args : List Expr} {e : Expr}
    (hargs : ∀ a ∈ args, Numeric a) (he : Call.expandHyperbolic ⟨f, args, false, none⟩ = some e) :
    Numeric e := by
  rw [Call.expandHyperbolic] at he
  cases args with
  | nil => cases he
  | cons x xs =>
    have hx : Numeric x := hargs x List.mem_cons_self
    -- exponentials and their ratio make up all four functions
    have hexp : Numeric (Expr.callOf .exp [x]) := .callOf rfl hx
    have hinverse : Numeric (Expr.callOf .exp [.neg x]) := .callOf rfl (.neg hx)
    have hsquare : Numeric (Expr.callOf .exp [.arith .mul (.number 2) x]) :=
      .callOf rfl (.arith .mul (.number 2) hx)
    have hratio (op op' : ArithOp) : Numeric (.arith .div
        (.arith op (Expr.callOf .exp [.arith .mul (.number 2) x]) (.number 1))
        (.arith op' (Expr.callOf .exp [.arith .mul (.number 2) x]) (.number 1))) :=
      .arith .div (.arith op hsquare (.number 1)) (.arith op' hsquare (.number 1))
    cases f with
    | sinh =>
      cases he
      exact .arith .div (.arith .sub hexp hinverse) (.number 2)
    | cosh =>
      cases he
      exact .arith .div (.arith .add hexp hinverse) (.number 2)
    | tanh =>
      cases he
      exact hratio .sub .add
    | coth =>
      cases he
      exact hratio .add .sub
    | _ => cases he

/-- What an expression is spelled out as is numeric again. -/
lemma Numeric.spelledOut {s : Scope} {e e' : Expr} (h : Numeric e)
    (he : s.spelledOut? e = some e') : Numeric e' := by
  cases h with
  | bit hop ha hb =>
    rw [Scope.spelledOut?] at he
    have hexpand := (Option.ite_none_left_eq_some.mp he).2
    exact numeric_of_expandBit ha (fun _ hb' => Option.some.inj hb' ▸ hb) hexpand
  | complement ha =>
    rw [Scope.spelledOut?] at he
    have hexpand := (Option.ite_none_left_eq_some.mp he).2
    refine numeric_of_expandBit ha (fun _ hb => ?_) hexpand
    cases hb
  | @call f args hf hargs =>
    rw [Scope.spelledOut?, Scope.callSpelledOut?] at he
    -- logarithms, powers and the hyperbolic functions, the last of which no engine has
    split at he
    · exact numeric_of_expandLog hargs (Option.ite_none_left_eq_some.mp he).2
    · exact numeric_of_expandPower hargs (Option.ite_none_right_eq_some.mp he).2
    · exact numeric_of_expandHyperbolic hargs (Option.ite_none_left_eq_some.mp he).2
    · exact numeric_of_expandHyperbolic hargs (Option.ite_none_left_eq_some.mp he).2
    · exact numeric_of_expandHyperbolic hargs (Option.ite_none_left_eq_some.mp he).2
    · exact numeric_of_expandHyperbolic hargs he
    · cases he
  | _ => cases he

end Expr

end Polysql

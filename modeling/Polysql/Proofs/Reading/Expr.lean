import Polysql.Draft.Statement
import Polysql.Proofs.Reading.Guarded
import Polysql.Proofs.Reading.Reader
/-!
The drafts of numeric expressions, read back. A draft is the text of the tree of the expression.
Only operands that are operators themselves get parentheses, though, and not those that turn into
operators where the engine has them spelled out. So the draft is read as this tree if and only if
the tree fits (`read_expr_iff`). It does where no operand turns into an operator
(`read_expr_of_guarded`), but it need not otherwise (`read_expr_log`).
-/

namespace Polysql

open Polysql.Tree

/-! ### Drafts -/

namespace Draft

variable {a b : Draft} {P Q : Tree → Prop}

/-- A function of two drafts. -/
lemma Reads.callPair (ha : a.Reads P) (hb : b.Reads Q) {opening f : String}
    (hopening : tokensOfText opening = [.word f, .opening]) :
    (opening ++ a ++ ", " ++ b ++ ")" : Draft).Reads
      fun t => ∃ u v, t = .call f [u, v] ∧ P u ∧ Q v := by
  intro hok
  simp only [error?_append, error?_text, true_and, and_true] at hok
  obtain ⟨haok, hbok⟩ := hok
  obtain ⟨t, ht, hP⟩ := ha haok
  obtain ⟨u, hu, hQ⟩ := hb hbok
  refine ⟨.call f [t, u], ?_, t, u, rfl, hP, hQ⟩
  have hcomma : tokensOfText ", " = [.comma] := rfl
  have hclosing : tokensOfText ")" = [.closing] := rfl
  simp only [append_assoc, tokens_text_append, tokens_append, haok, hbok, tokens_text, hopening,
    hcomma, hclosing, ht, hu, Tree.call, Tree.tokens, Operator.tokens, tokensOfList, tokensOfRest,
    List.append_nil, List.nil_append, List.cons_append, List.append_assoc]

end Draft

namespace Writers

/-- The writers draft numeric expressions as texts of their trees. -/
structure Spells (w : Writers) : Prop where
  expr (s : Scope) {e : Expr} (he : e.Numeric) : (w.expr s e).Reads (e.Written s)
  call (s : Scope) {f : Func} {args : List Expr} (hf : f.isNumeric)
    (hargs : ∀ e ∈ args, e.Numeric) :
    (w.call s ⟨f, args, false, none⟩).Reads (Expr.Written s (.call ⟨f, args, false, none⟩))

namespace Spells

variable {w : Writers} (hw : w.Spells) (s : Scope)
include hw

lemma operand {e : Expr} (he : e.Numeric) : (w.operand s e).Reads (e.WrittenOperand s) := by
  rw [Writers.operand]
  split
  next hbinary =>
    refine (hw.expr s he).group.imp fun _ ht => ?_
    obtain ⟨t, rfl, ht⟩ := ht
    exact .parenthesized hbinary ht
  next hbinary =>
    exact (hw.expr s he).imp fun _ ht => .bare (Bool.eq_false_iff.mpr hbinary) ht

omit hw in
lemma writtenAll {ts : List Tree} {es : List Expr}
    (h : List.Forall₂ (fun t e => Expr.Written s e t) ts es) : Expr.WrittenAll s es ts := by
  induction h with
  | nil => exact .nil
  | cons ht _ ih => exact .cons ht ih

/-- A function by its name. -/
lemma named {es : List Expr} (hes : ∀ e ∈ es, e.Numeric) {f : String}
    (hf : tokensOfText f = [.word f]) :
    (f ++ "(" ++ w.exprs s es ++ ")" : Draft).Reads
      fun t => ∃ ts, t = .call f ts ∧ Expr.WrittenAll s es ts := by
  intro hok
  simp only [Draft.error?_append, Draft.error?_text, true_and, and_true] at hok
  obtain ⟨ts, htokens, hts⟩ := Draft.reads_commas (fun e he => hw.expr s (hes e he)) hok
  refine ⟨.call f ts, ?_, ts, rfl, writtenAll s hts⟩
  have hopening : tokensOfText "(" = [.opening] := rfl
  have hclosing : tokensOfText ")" = [.closing] := rfl
  rw [Draft.append_assoc, Draft.append_assoc, Draft.tokens_text_append, Draft.tokens_text_append,
    Draft.tokens_append hok, Draft.tokens_text, hf, hopening, hclosing, Writers.exprs, htokens]
  rfl

/-! ### Operators -/

lemma arith (op : ArithOp) {a b : Expr} (ha : a.Numeric) (hb : b.Numeric) :
    (w.arith s op a b).Reads (Expr.Written s (.arith op a b)) := by
  rw [Writers.arith]
  split
  next h =>
    obtain ⟨rfl, hmod⟩ := h
    have hopening : tokensOfText "MOD(" = [.word "MOD", .opening] := rfl
    refine ((hw.operand s ha).callPair (hw.operand s hb) hopening).imp fun _ ht => ?_
    obtain ⟨t, u, rfl, ht, hu⟩ := ht
    exact .direct rfl (.mod hmod ht hu)
  next h =>
    have hsign : tokensOfText op.sign = (Operator.arith op).tokens := by
      cases op <;> rfl
    refine ((hw.operand s ha).binary (hw.operand s hb) hsign).imp fun _ ht => ?_
    obtain ⟨t, u, rfl, ht, hu⟩ := ht
    exact .direct rfl (.arith h ht hu)

lemma neg {e : Expr} (he : e.Numeric) : (w.neg s e).Reads (Expr.Written s (.neg e)) := by
  -- a column takes the sign as it is, any other operand gets parentheses
  rw [Writers.neg.eq_def]
  split
  next n type =>
    intro hok
    obtain ⟨t, htokens, ht⟩ := hw.expr s he (Draft.error?_append.mp hok).2
    refine ⟨.unary .minus t, ?_, .direct rfl (.negColumn ht)⟩
    rw [Draft.tokens_text_append, htokens]
    rfl
  next hfield =>
    intro hok
    simp only [Draft.error?_append, Draft.error?_text, true_and, and_true] at hok
    obtain ⟨t, htokens, ht⟩ := hw.expr s he hok
    refine ⟨.unary .minus (.group [t]), ?_, .direct rfl (.neg (fun n type h => hfield n type h) ht)⟩
    rw [Draft.append_assoc, Draft.tokens_text_append, Draft.tokens_append hok, Draft.tokens_text,
      htokens]
    simp only [Tree.tokens, Tree.tokensOfList, Tree.tokensOfRest, List.append_nil]
    rfl

/-! ### Bitwise operations -/

omit hw in
/-- The signs between operands are those of bitwise operators. -/
lemma exists_bitSign {f : Family} {op : BitOp} {text : String} (hop : op ≠ .not)
    (h : f.bitSign? op = some text) : ∃ sign : BitSign, sign.text = text := by
  -- the exclusive or has a sign of its own in each family, and none has one for the derived
  -- operations
  cases op with
  | and => exact ⟨.ampersand, Option.some.inj h⟩
  | or => exact ⟨.bar, Option.some.inj h⟩
  | xor =>
    dsimp only [Family.bitSign?] at h
    split at h
    · exact ⟨.hash, Option.some.inj h⟩
    · exact ⟨.hash, Option.some.inj h⟩
    · exact ⟨.hash, Option.some.inj h⟩
    · cases h
    · cases h
    · exact ⟨.caret, Option.some.inj h⟩
  | not => exact absurd rfl hop
  | nand => cases h
  | nor => cases h
  | xnor => cases h
  | shiftLeft =>
    rw [Family.bitSign?] at h
    split at h
    · cases h
    · exact ⟨.shiftLeft, Option.some.inj h⟩
  | shiftRight =>
    rw [Family.bitSign?] at h
    split at h
    · cases h
    · exact ⟨.shiftRight, Option.some.inj h⟩

omit hw in
/-- The functions of a family for bitwise operations are words. -/
lemma tokens_bitFunction {f : Family} {name? : BitOp → Option String} {op : BitOp}
    {name : String} (h : f.bitFunction? = some name?) (hname : name? op = some name) :
    tokensOfText name = [.word name] := by
  cases f <;> cases h <;> cases op <;> cases hname <;> rfl

/-- A bitwise operation in terms of simpler ones. -/
lemma bitExpanded {op : BitOp} {a : Expr} {b? : Option Expr} (ha : a.Numeric)
    (hb : ∀ b, b? = some b → b.Numeric) (h : s.family.writesBit op = false) :
    (w.bitExpanded s op a b?).Reads (Expr.Written s (.bit op a b?)) := by
  rw [Writers.bitExpanded]
  split
  next e he =>
    have hspelled : s.spelledOut? (.bit op a b?) = some e := by
      rw [Scope.spelledOut?, h]
      exact he
    refine (hw.expr s (Expr.numeric_of_expandBit ha hb he)).imp fun _ ht => ?_
    exact .spelledOut hspelled ht
  next => exact Draft.reads_of_failed (Option.some_ne_none _)

/-- The operands of a disjunction of bits, as a sum. -/
lemma bitOr {a b : Expr} (ha : a.Numeric) (hb : b.Numeric) (h : s.family = .oracle) :
    ("(" ++ w.operand s a ++ " + " ++ w.operand s b ++ " - BITAND(" ++ w.operand s a ++ ", " ++
      w.operand s b ++ "))" : Draft).Reads (Expr.Written s (.bit .or a (some b))) := by
  intro hok
  simp only [Draft.error?_append, Draft.error?_text, true_and, and_true] at hok
  obtain ⟨⟨⟨haok, hbok⟩, _⟩, _⟩ := hok
  obtain ⟨t, ht, hta⟩ := hw.operand s ha haok
  obtain ⟨u, hu, hub⟩ := hw.operand s hb hbok
  refine ⟨_, ?_, .direct (spelledOut?_bit (writesBit_oracle h rfl)) (.bitOr h hta hub)⟩
  have hopening : tokensOfText "(" = [.opening] := rfl
  have hplus : tokensOfText " + " = [.sign "+"] := rfl
  have hminus : tokensOfText " - BITAND(" = [.sign "-", .word "BITAND", .opening] := rfl
  have hcomma : tokensOfText ", " = [.comma] := rfl
  have hclosing : tokensOfText "))" = [.closing, .closing] := rfl
  simp only [Draft.append_assoc, Draft.tokens_text_append, Draft.tokens_append, haok, hbok,
    Draft.tokens_text, hopening, hplus, hminus, hcomma, hclosing, ht, hu, Tree.call, Tree.tokens,
    Operator.tokens, ArithOp.sign, tokensOfList, tokensOfRest, List.append_nil, List.nil_append,
    List.cons_append, List.append_assoc]

lemma bitOracle {op : BitOp} {a : Expr} {b? : Option Expr} (ha : a.Numeric)
    (hb : ∀ b, b? = some b → b.Numeric) (hright : op ≠ .not → b? ≠ none)
    (h : s.family = .oracle) :
    (w.bitOracle s op a b?).Reads (Expr.Written s (.bit op a b?)) := by
  -- there is `BITAND`, and the sum less it for the other one of the two; the rest is spelled out
  rw [Writers.bitOracle.eq_def]
  split
  next b =>
    have hopening : tokensOfText "BITAND(" = [.word "BITAND", .opening] := rfl
    refine ((hw.operand s ha).callPair (hw.operand s (hb b rfl)) hopening).imp fun _ ht => ?_
    obtain ⟨t, u, rfl, ht, hu⟩ := ht
    exact .direct (spelledOut?_bit (writesBit_oracle h rfl)) (.bitAnd h ht hu)
  next b => exact hw.bitOr s ha (hb b rfl) h
  next hand hor =>
    refine hw.bitExpanded s ha hb ?_
    rw [Family.writesBit, if_pos h]
    cases op with
    | and =>
      obtain ⟨b, rfl⟩ := Option.ne_none_iff_exists'.mp (hright (by decide))
      exact (hand b rfl rfl).elim
    | or =>
      obtain ⟨b, rfl⟩ := Option.ne_none_iff_exists'.mp (hright (by decide))
      exact (hor b rfl rfl).elim
    | _ => rfl

lemma bitSigned {op : BitOp} {a : Expr} {b? : Option Expr} (ha : a.Numeric)
    (hb : ∀ b, b? = some b → b.Numeric) (hright : op = .not ↔ b? = none)
    (h : s.family ≠ .oracle) (hfunction : s.family.bitFunction? = none) :
    (w.bitSigned s op a b?).Reads (Expr.Written s (.bit op a b?)) := by
  -- no sign, a sign between two operands, or the sign of the complement
  rw [Writers.bitSigned.eq_def]
  split
  next hsign =>
    refine hw.bitExpanded s ha hb ?_
    rw [Family.writesBit, if_neg h, hfunction, hsign]
    rfl
  next text b hsign =>
    have hop : op ≠ .not := fun hop => Option.some_ne_none b (hright.mp hop)
    obtain ⟨sign, rfl⟩ := exists_bitSign hop hsign
    have htext : tokensOfText sign.text = (Operator.bitwise sign).tokens := by
      cases sign <;> rfl
    refine ((hw.operand s ha).binary (hw.operand s (hb b rfl)) htext).imp fun _ ht => ?_
    obtain ⟨t, u, rfl, ht, hu⟩ := ht
    exact .direct (spelledOut?_bit (writesBit_of_sign h hfunction hsign))
      (.bit h hfunction hsign ht hu)
  next text hsign =>
    obtain rfl := hright.mpr rfl
    obtain rfl : "~" = text := Option.some.inj hsign
    intro hok
    obtain ⟨t, htokens, ht⟩ := hw.operand s ha (Draft.error?_append.mp hok).2
    refine ⟨.unary .complement t, ?_, .direct
      (spelledOut?_bit (writesBit_of_sign h hfunction rfl)) (.complement hfunction ht)⟩
    rw [Draft.tokens_text_append, htokens]
    rfl

/-- A bitwise operation. Only a complement has no right operand. -/
lemma bit {op : BitOp} {a : Expr} {b? : Option Expr} (ha : a.Numeric)
    (hb : ∀ b, b? = some b → b.Numeric) (hright : op = .not ↔ b? = none) :
    (w.bit s op a b?).Reads (Expr.Written s (.bit op a b?)) := by
  -- spelled out for all families, refused, and then by functions or by signs
  rw [Writers.bit]
  split
  next hop => exact hw.bitExpanded s ha hb (writesBit_derived hop)
  next hop =>
    split
    next => exact Draft.reads_of_failed (Option.some_ne_none _)
    next horacle =>
      exact hw.bitOracle s ha hb (fun hop hnone => hop (hright.mpr hnone)) horacle
    next hderby horacle =>
      split
      next hfunction => exact hw.bitSigned s ha hb hright horacle hfunction
      next name? hfunction =>
        split
        next name hname =>
          have hall : ∀ e ∈ a :: b?.toList, e.Numeric :=
            List.forall_mem_cons.mpr ⟨ha, fun e he => hb e (Option.mem_toList.mp he)⟩
          refine (hw.named s hall (tokens_bitFunction hfunction hname)).imp fun _ ht => ?_
          obtain ⟨ts, rfl, hts⟩ := ht
          exact .direct (spelledOut?_bit (writesBit_of_function horacle hfunction hname))
            (.bitFunction hfunction hname hts)
        next hname =>
          refine hw.bitExpanded s ha hb ?_
          rw [Family.writesBit, if_neg horacle, hfunction]
          exact congrArg Option.isSome hname

/-! ### Functions -/

section

variable {f : Func} {args : List Expr}

omit hw in
lemma callNamed_eq (name : String) :
    w.callNamed s name ⟨f, args, false, none⟩ = name ++ "(" ++ w.exprs s args ++ ")" := by
  simp [callNamed, arguments, Draft.onlyIf, Draft.ofOption, Draft.append_assoc]

omit hw in
lemma tokens_upperName (hf : f.isNumeric) : tokensOfText f.upperName = [.word f.upperName] := by
  cases f <;> cases hf <;> rfl

/-- A function by its name. -/
lemma callNamed (hf : f.isNumeric) (hargs : ∀ e ∈ args, e.Numeric)
    (hnone : s.callSpelledOut? ⟨f, args, false, none⟩ = none)
    (hlog : f = .log → s.baseBehind = false) {name : String} (hname : s.functionName f = name) :
    (w.callNamed s name ⟨f, args, false, none⟩).Reads
      (Expr.Written s (.call ⟨f, args, false, none⟩)) := by
  subst hname
  have htokens : tokensOfText (s.functionName f) = [.word (s.functionName f)] := by
    rw [Scope.functionName]
    split
    · rfl
    · exact tokens_upperName hf
  rw [callNamed_eq]
  refine (hw.named s hargs htokens).imp fun _ ht => ?_
  obtain ⟨ts, rfl, hts⟩ := ht
  exact .direct hnone (.call hlog hts)

lemma callByName (hf : f.isNumeric) (hargs : ∀ e ∈ args, e.Numeric)
    (hnone : s.callSpelledOut? ⟨f, args, false, none⟩ = none) (hlog : f ≠ .log) (hln : f ≠ .ln) :
    (w.callNamed s f.upperName ⟨f, args, false, none⟩).Reads
      (Expr.Written s (.call ⟨f, args, false, none⟩)) :=
  hw.callNamed s hf hargs hnone (absurd · hlog) (if_neg fun h => hln h.1)

/-- A function in terms of others. -/
lemma callExpanded {expanded? : Option Expr}
    (hspelled : s.callSpelledOut? ⟨f, args, false, none⟩ = expanded?)
    (hf : f.isNumeric) (hargs : ∀ e ∈ args, e.Numeric) :
    (w.callExpanded s expanded?).Reads (Expr.Written s (.call ⟨f, args, false, none⟩)) := by
  rw [Writers.callExpanded.eq_def]
  split
  next e he =>
    have hnumeric : Expr.Numeric (.call ⟨f, args, false, none⟩) := .call hf hargs
    refine (hw.expr s (hnumeric.spelledOut hspelled)).imp fun _ ht => ?_
    exact .spelledOut hspelled ht
  next => exact Draft.reads_of_failed (Option.some_ne_none _)

lemma log (hargs : ∀ e ∈ args, e.Numeric) :
    (w.log s ⟨.log, args, false, none⟩).Reads
      (Expr.Written s (.call ⟨.log, args, false, none⟩)) := by
  -- the base in front, the base behind, or a quotient of logarithms
  rw [Writers.log.eq_def]
  split
  next base x hpair =>
    obtain rfl : args = [base, x] := hpair
    split
    next hfirst =>
      refine hw.callNamed s rfl hargs ?_ (fun _ => ?_) rfl
      · rw [Scope.callSpelledOut?, hfirst]
        rfl
      · rw [Scope.baseBehind, hfirst]
        rfl
    next hfirst =>
      have hlacks : s.has Feature.logWithBase = false := Bool.eq_false_iff.mpr hfirst
      split
      next hfamily =>
        have hbehind : s.baseBehind = true := by
          rw [Scope.baseBehind, hlacks, hfamily]
          rfl
        obtain ⟨hbase, hx⟩ := List.forall_mem_cons.mp hargs
        have hx := hw.expr s (List.forall_mem_singleton.mp hx)
        have hopening : tokensOfText "LOG(" = [.word "LOG", .opening] := rfl
        refine (hx.callPair (hw.expr s hbase) hopening).imp fun _ ht => ?_
        obtain ⟨t, u, rfl, ht, hu⟩ := ht
        have hnone : s.callSpelledOut? ⟨.log, [base, x], false, none⟩ = none := by
          rw [Scope.callSpelledOut?, hbehind, Bool.or_true]
          rfl
        exact .direct hnone (.log hbehind ht hu)
      next hfamily =>
        refine hw.callExpanded s ?_ rfl hargs
        have hbehind : s.baseBehind = false := by
          rw [Scope.baseBehind, decide_eq_false hfamily, Bool.and_false]
        rw [Scope.callSpelledOut?, hlacks, hbehind]
        rfl
  next => exact Draft.reads_of_failed (Option.some_ne_none _)

/-- The call of a numeric function. -/
lemma callPlain (hf : f.isNumeric) (hargs : ∀ e ∈ args, e.Numeric) :
    (w.callPlain s ⟨f, args, false, none⟩).Reads
      (Expr.Written s (.call ⟨f, args, false, none⟩)) := by
  -- each function has engines that lack it, or none
  cases f with
  | exp =>
    dsimp only [Writers.callPlain]
    exact hw.callByName s rfl hargs rfl (by decide) (by decide)
  | ln =>
    have hnone : s.callSpelledOut? ⟨.ln, args, false, none⟩ = none := rfl
    dsimp only [Writers.callPlain]
    split
    next h => exact hw.callNamed s rfl hargs hnone (by simp) (if_pos ⟨rfl, h⟩)
    next h => exact hw.callNamed s rfl hargs hnone (by simp) (if_neg fun hln => h hln.2)
  | log => exact hw.log s hargs
  | power =>
    dsimp only [Writers.callPlain]
    split
    next h => exact hw.callExpanded s (if_pos h) rfl hargs
    next h => exact hw.callByName s rfl hargs (if_neg h) (by decide) (by decide)
  | sinh | cosh | tanh =>
    dsimp only [Writers.callPlain]
    split
    next h => exact hw.callByName s rfl hargs (if_pos h) (by decide) (by decide)
    next h => exact hw.callExpanded s (if_neg h) rfl hargs
  | coth => exact hw.callExpanded s rfl rfl hargs
  | _ => cases hf

lemma draftCall (hf : f.isNumeric) (hargs : ∀ e ∈ args, e.Numeric) :
    (w.draftCall s ⟨f, args, false, none⟩).Reads
      (Expr.Written s (.call ⟨f, args, false, none⟩)) := by
  have hplain := hw.callPlain s hf hargs
  rw [Writers.draftCall]
  split
  · exact hplain
  · exact hplain

end

/-- The draft of a numeric expression. -/
lemma draftExpr {e : Expr} (he : e.Numeric) : (w.draftExpr s e).Reads (e.Written s) := by
  cases he with
  | constant c => exact fun hok => ⟨.value c, Draft.tokens_constant hok, .direct rfl (.constant c)⟩
  | field hn type =>
    intro _
    obtain ⟨m, ms, hshown, htokens⟩ := Draft.tokens_column (s := s) hn
    exact ⟨.name m ms, htokens, .direct rfl (.field hshown type)⟩
  | arith op ha hb => exact hw.arith s op ha hb
  | neg he => exact hw.neg s he
  | bit hop ha hb =>
    exact hw.bit s ha (fun _ h => Option.some.inj h ▸ hb) (by simp [hop])
  | complement ha => exact hw.bit s ha (fun _ h => by cases h) ⟨fun _ => rfl, fun _ => rfl⟩
  | call hf hargs => exact hw.call s hf hargs

end Spells

/-- Numeric expressions are drafted as texts of their trees at every level. -/
theorem spells_level (n : Nat) : (level n).Spells := by
  induction n with
  | zero =>
    exact
      { expr := fun _ _ _ => Draft.reads_of_failed (Option.some_ne_none _)
        call := fun _ _ _ _ _ => Draft.reads_of_failed (Option.some_ne_none _) }
  | succ n ih =>
    exact
      { expr := fun s _ he => ih.draftExpr s he
        call := fun s _ _ hf hargs => ih.draftCall s hf hargs }

end Writers

/-- **Reading numeric expressions.** The draft of a numeric expression is the text of its one tree,
and is read as this tree if and only if the tree fits: if every operand without parentheses binds
tighter than its operator, or as tight on the left. -/
theorem read_expr_iff (p : Precedence) (n : Nat) (s : Scope) {e : Expr} (he : e.Numeric)
    (hok : ((Writers.level n).expr s e).error? = none) :
    ∃ t, (∀ u, e.Written s u ↔ u = t) ∧ ((Writers.level n).expr s e).tokens = t.tokens ∧
      (read p ((Writers.level n).expr s e).tokens = some t ↔ t.Fits p) := by
  obtain ⟨t, htokens, ht⟩ := (Writers.spells_level n).expr s he hok
  refine ⟨t, fun u => ⟨fun hu => hu.unique ht, fun hu => hu ▸ ht⟩, htokens, ?_⟩
  rw [htokens]
  exact read_tokens_iff

/-- The draft of a numeric expression whose operands are no operations without parentheses is read
as its tree. -/
theorem read_expr_of_guarded (p : Precedence) (n : Nat) (s : Scope) {e : Expr} (he : e.Numeric)
    (hguarded : e.Guarded s) (hok : ((Writers.level n).expr s e).error? = none) :
    ∃ t, e.Written s t ∧ read p ((Writers.level n).expr s e).tokens = some t := by
  obtain ⟨t, htokens, ht⟩ := (Writers.spells_level n).expr s he hok
  refine ⟨t, ht, ?_⟩
  rw [htokens]
  exact read_tokens_iff.mpr (hguarded.fitsAt t ht).1

/-! ### Logarithms on SQLite -/

/-- A logarithm is spelled out as a quotient. -/
lemma Expr.Written.log_sqlite {base x : Expr} {t u : Tree} (hx : Written (.alone .sqlite) x t)
    (hbase : Written (.alone .sqlite) base u) :
    Written (.alone .sqlite) (.callOf .log [base, x])
      (.binary (.arith .div) (.call "LN" [t]) (.call "LN" [u])) := by
  have hspelled : (Scope.alone .sqlite).spelledOut? (.callOf .log [base, x]) =
      some (.arith .div (.callOf .ln [x]) (.callOf .ln [base])) := rfl
  refine .spelledOut hspelled (.direct rfl (.arith (by simp) (.bare rfl ?_) (.bare rfl ?_)))
  · exact .direct rfl (.call (absurd · (by decide)) (.cons hx .nil))
  · exact .direct rfl (.call (absurd · (by decide)) (.cons hbase .nil))

/-- Arithmetic with a logarithm on its right. -/
lemma Expr.Written.arith_log_sqlite (op : ArithOp) {a base x : NamePart} :
    Written (.alone .sqlite)
      (.arith op (.column ⟨[a]⟩) (.callOf .log [.column ⟨[base]⟩, .column ⟨[x]⟩]))
      (.binary (.arith op) (.part a)
        (.binary (.arith .div) (.call "LN" [.part x]) (.call "LN" [.part base]))) := by
  have hfield (n : NamePart) : WrittenDirectly (.alone .sqlite) (.field ⟨[n]⟩ .unknown)
      (.name n []) := .field rfl .unknown
  have hcolumn (n : NamePart) : Written (.alone .sqlite) (.column ⟨[n]⟩) (.part n) :=
    .direct rfl (hfield n)
  have hmod : ¬(op = .mod ∧ (Scope.alone .sqlite).family.hasModFunction) :=
    fun h => Bool.false_ne_true h.2
  exact .direct rfl (.arith hmod (.bare rfl (hcolumn a))
    (.bare rfl (.log_sqlite (hcolumn x) (hcolumn base))))

lemma tight_ln {p : Precedence} (n : NamePart) : (Tree.call "LN" [.part n]).Tight p :=
  tight_call (by decide) ⟨trivial, trivial⟩

/-- A quotient binds tighter than a difference. -/
lemma fits_difference {p : Precedence} (a base x : NamePart) :
    (binary (.arith .sub) (.part a)
      (binary (.arith .div) (.call "LN" [.part x]) (.call "LN" [.part base]))).Fits p := by
  have hx : (Tree.call "LN" [.part x]).Tight p := tight_ln x
  have hbase : (Tree.call "LN" [.part base]).Tight p := tight_ln base
  refine fits_binary trivial (hx.arith .div hbase) trivial ?_ (by simp) (by simp) (by simp)
  exact ⟨(by decide : 20 < 30), hx.above.mono (level_arith_le .sub),
    hbase.above.mono (level_arith_le .sub)⟩

/-- The text `a - LN(x) / LN(b)` of a difference is read as it should be. -/
theorem read_expr_difference :
    ∃ t, Expr.Written (.alone .sqlite) (.arith .sub (.column (.ofText "a"))
        (.callOf .log [.column (.ofText "b"), .column (.ofText "x")])) t ∧
      read default
        ((Writers.level 8).expr (.alone .sqlite) (.arith .sub (.column (.ofText "a"))
          (.callOf .log [.column (.ofText "b"), .column (.ofText "x")]))).tokens = some t := by
  have hcolumn (x : String) (hx : (Name.ofText x).parts ≠ []) :
      (Expr.column (.ofText x)).Numeric := .field hx .unknown
  have hlog : (Expr.callOf .log [.column (.ofText "b"), .column (.ofText "x")]).Numeric :=
    .call rfl (List.forall_mem_cons.mpr ⟨hcolumn "b" (List.cons_ne_nil _ _),
      List.forall_mem_singleton.mpr (hcolumn "x" (List.cons_ne_nil _ _))⟩)
  have hdifference := Expr.Numeric.arith .sub (hcolumn "a" (List.cons_ne_nil _ _)) hlog
  obtain ⟨t, ht, -, hread⟩ := read_expr_iff default
    8 (.alone .sqlite) hdifference rfl
  refine ⟨t, (ht t).mpr rfl, hread.mpr ?_⟩
  rw [← (ht _).mp (.arith_log_sqlite .sub)]
  exact fits_difference _ _ _

/-- The text `a / LN(x) / LN(b)` of a quotient is read as another expression: it is the quotient of
`a / LN(x)`. -/
theorem read_expr_log :
    ((Writers.level 8).expr (.alone .sqlite) (.arith .div (.column (.ofText "a"))
        (.callOf .log [.column (.ofText "b"), .column (.ofText "x")]))).error? = none ∧
      ¬∃ t, Expr.Written (.alone .sqlite) (.arith .div (.column (.ofText "a"))
          (.callOf .log [.column (.ofText "b"), .column (.ofText "x")])) t ∧
        read default
          ((Writers.level 8).expr (.alone .sqlite) (.arith .div (.column (.ofText "a"))
            (.callOf .log [.column (.ofText "b"), .column (.ofText "x")]))).tokens = some t := by
  refine ⟨rfl, fun h => ?_⟩
  obtain ⟨t, ht, hread⟩ := h
  have hfits := fits_of_read hread
  rw [ht.unique (.arith_log_sqlite .div)] at hfits
  -- the right operand binds as tight as its operator
  obtain ⟨-, -, -, habove, -⟩ := hfits
  exact Nat.lt_irrefl 30 habove.1

end Polysql

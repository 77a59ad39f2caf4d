import Mathlib.Data.List.Induction
import Polysql.Draft.Expr
import Polysql.Proofs.Reading.Meaning
/-!
The drafts of columns, constants and rows as trees. They bind tighter than the operators of
conditions and of arithmetic (`Tree.Tight`), and mean the expressions that they are drafts of
(`Draft.isOperand_constant`, `Draft.isOperand_column`, `Draft.isRow_parenthesized`).
-/

namespace Polysql

/-- The place of a part that stands on its own, on an engine of which nothing is known. -/
def Scope.alone (d : Dialect) : Scope :=
  { target := ⟨d, none, .ignore, .ignore⟩ }

/-! ### Tokens of lists -/

namespace Tree

lemma tokens_chain (op : Operator) (t : Tree) (ts : List Tree) :
    (chain op t ts).tokens = t.tokens ++ ts.flatMap fun u => op.tokens ++ u.tokens := by
  induction ts generalizing t with
  | nil => exact (List.append_nil _).symm
  | cons u us ih =>
    have hcons : chain op t (u :: us) = chain op (binary op t u) us := rfl
    rw [hcons, ih, tokens, List.flatMap_cons]
    simp only [List.append_assoc]

lemma tokensOfRest_eq (ts : List Tree) :
    tokensOfRest ts = ts.flatMap fun t => .comma :: t.tokens := by
  induction ts with
  | nil => rfl
  | cons t ts ih => rw [tokensOfRest, ih, List.flatMap_cons, List.cons_append]

end Tree

namespace Draft

/-- The draft, unless it fails, is the text of a tree with a property. -/
def Reads (d : Draft) (P : Tree → Prop) : Prop :=
  d.error? = none → ∃ t : Tree, d.tokens = t.tokens ∧ P t

lemma reads_of_failed {d : Draft} {P : Tree → Prop} (h : d.error? ≠ none) : d.Reads P :=
  (absurd · h)

lemma Reads.imp {d : Draft} {P Q : Tree → Prop} (h : d.Reads P) (hPQ : ∀ t, P t → Q t) :
    d.Reads Q := by
  intro hok
  obtain ⟨t, htokens, ht⟩ := h hok
  exact ⟨t, htokens, hPQ t ht⟩

lemma tokens_separated (separator : String) {d : Draft} {ds : List Draft}
    (h : (separated separator (d :: ds)).error? = none) :
    (separated separator (d :: ds)).tokens =
      d.tokens ++ ds.flatMap fun e => tokensOfText separator ++ e.tokens := by
  induction ds generalizing d with
  | nil => exact (List.append_nil _).symm
  | cons e ds ih =>
    rw [separated] at h ⊢
    · obtain ⟨hd, hrest⟩ := error?_append.mp h
      rw [tokens_append hd, tokens_append (error?_append.mp hd).1, ih hrest, tokens_text,
        List.flatMap_cons]
      simp only [List.append_assoc]
    · simp
    · simp

lemma flatMap_tokens_congr {separator : List Token} {ds : List Draft} {ts : List Tree}
    (h : List.Forall₂ (fun d t => d.tokens = t.tokens) ds ts) :
    (ds.flatMap fun d => separator ++ d.tokens) = ts.flatMap fun t => separator ++ t.tokens := by
  induction h with
  | nil => rfl
  | cons hd _ ih => rw [List.flatMap_cons, List.flatMap_cons, hd, ih]

/-- Drafts with a separator between them are a chain of trees. -/
lemma tokens_separated_chain {separator : String} {op : Operator}
    (hop : tokensOfText separator = op.tokens) {d : Draft} {t : Tree} {ds : List Draft}
    {ts : List Tree} (h : (separated separator (d :: ds)).error? = none)
    (hd : d.tokens = t.tokens) (hds : List.Forall₂ (fun d t => d.tokens = t.tokens) ds ts) :
    (separated separator (d :: ds)).tokens = (Tree.chain op t ts).tokens := by
  rw [tokens_separated separator h, Tree.tokens_chain, hop, hd, flatMap_tokens_congr hds]

/-- Drafts with commas between them are a list of trees. -/
lemma tokens_commas {ds : List Draft} {ts : List Tree} (h : (commas ds).error? = none)
    (hds : List.Forall₂ (fun d t => d.tokens = t.tokens) ds ts) :
    (commas ds).tokens = Tree.tokensOfList ts := by
  cases hds with
  | nil => rfl
  | cons hd hds =>
    have hcomma : tokensOfText ", " = [.comma] := rfl
    rw [commas, tokens_separated ", " h, Tree.tokensOfList, Tree.tokensOfRest_eq, hd, hcomma,
      flatMap_tokens_congr hds]
    rfl

end Draft

/-! ### Drafts around others -/

namespace Draft

variable {a b : Draft} {P Q : Tree → Prop}

/-- Two drafts with an operator between them. -/
lemma Reads.binary (ha : a.Reads P) (hb : b.Reads Q) {sign : String} {op : Operator}
    (hop : tokensOfText sign = op.tokens) :
    (a ++ " " ++ sign ++ " " ++ b : Draft).Reads
      fun t => ∃ u v, t = .binary op u v ∧ P u ∧ Q v := by
  intro hok
  simp only [error?_append, error?_text, and_true] at hok
  obtain ⟨haok, hbok⟩ := hok
  obtain ⟨t, ht, hP⟩ := ha haok
  obtain ⟨u, hu, hQ⟩ := hb hbok
  refine ⟨.binary op t u, ?_, t, u, rfl, hP, hQ⟩
  have hspace : tokensOfText " " = [] := rfl
  rw [Tree.tokens, ← hop, ← ht, ← hu]
  simp only [tokens_append, error?_append, error?_text, haok, and_self, tokens_text, hspace,
    List.append_nil]

/-- A draft in parentheses. -/
lemma Reads.group (ha : a.Reads P) :
    ("(" ++ a ++ ")" : Draft).Reads fun t => ∃ u, t = .group [u] ∧ P u := by
  intro hok
  simp only [error?_append, error?_text, true_and, and_true] at hok
  obtain ⟨t, ht, hP⟩ := ha hok
  refine ⟨.group [t], ?_, t, rfl, hP⟩
  rw [append_assoc, tokens_text_append, tokens_append hok, tokens_text, ht]
  simp only [Tree.tokens, Tree.tokensOfList, Tree.tokensOfRest, List.append_nil]
  rfl

end Draft

/-! ### Trees that bind tight -/

namespace Tree

/-- The tree is an operand of every operator between values. -/
structure Tight (p : Precedence) (t : Tree) : Prop where
  fits : t.Fits p
  above : t.Above p 40
  leftOf {op : Operator} (h : op.level p ≤ 40) : t.LeftOf p op
  closed : t.awaitsUpper = false

variable {p : Precedence}

lemma tight_value (c : Constant) : (value c).Tight p :=
  ⟨trivial, trivial, fun _ => trivial, rfl⟩

lemma tight_word {s : String} (h : s ∉ operatorWords) : (word s).Tight p :=
  ⟨h, trivial, fun _ => trivial, rfl⟩

lemma tight_group {ts : List Tree} (h : AllFit p ts) : (group ts).Tight p :=
  ⟨h, trivial, fun _ => trivial, rfl⟩

/-- The name with some parts, the outermost qualifier first. -/
def name (n : NamePart) (ns : List NamePart) : Tree :=
  chain .dot (part n) (ns.map part)

lemma name_append_singleton (n m : NamePart) (ns : List NamePart) :
    name n (ns ++ [m]) = binary .dot (name n ns) (part m) := by
  rw [name, chain, List.map_append, List.foldl_append]
  rfl

/-- A dot binds tighter than what stands between values. -/
lemma tight_name (n : NamePart) (ns : List NamePart) : (name n ns).Tight p := by
  induction ns using List.reverseRecOn with
  | nil => exact ⟨trivial, trivial, fun _ => trivial, rfl⟩
  | append_singleton ns m ih =>
    rw [name_append_singleton]
    -- what stands left of a dot is a name, which binds as a dot does
    have hleft : (name n ns).LeftOf p .dot := by
      cases ns using List.reverseRecOn with
      | nil => trivial
      | append_singleton ns m =>
        rw [name_append_singleton]
        exact Nat.le_refl 50
    exact
      { fits := fits_binary ih.fits trivial hleft trivial (by decide) (by decide) (by decide)
        above := ⟨(by decide : 40 < 50), ih.above, trivial⟩
        leftOf := fun {op} (h : op.level p ≤ 40) => show op.level p ≤ 50 by omega
        closed := rfl }

lemma path?_name (n : NamePart) (ns : List NamePart) : (name n ns).path? = some (n :: ns) := by
  induction ns using List.reverseRecOn with
  | nil => rfl
  | append_singleton ns m ih =>
    rw [name_append_singleton, path?, ih]
    rfl

/-- A name is the text of a column. -/
lemma expr?_name (n : NamePart) (ns : List NamePart) :
    (name n ns).expr? = some (.column ⟨n :: ns⟩) := by
  have hpath := path?_name n ns
  cases ns using List.reverseRecOn with
  | nil => rfl
  | append_singleton ns m =>
    rw [name_append_singleton] at hpath ⊢
    rw [expr?, hpath]
    · rfl
    all_goals simp

end Tree

/-! ### Values and rows -/

namespace Tree

/-- The tree is the text of an expression. -/
def MeansExpr (qualify : Bool) (t : Tree) (e : Expr) : Prop :=
  ∃ e', t.expr? = some e' ∧ Agrees qualify (e'.eval ·) (e.eval ·)

/-- The tree binds tight, and is the text of an expression. -/
structure IsValue (p : Precedence) (q : Bool) (t : Tree) (e : Expr) : Prop where
  tight : t.Tight p
  means : t.MeansExpr q e

/-- The tree binds tight, and is the text of a row. -/
structure IsRow (p : Precedence) (q : Bool) (t : Tree) (r : Row) : Prop where
  tight : t.Tight p
  means : t.MeansRow q r

variable {p : Precedence} {q : Bool}

lemma row?_of_expr? {t : Tree} {e : Expr} (h : t.expr? = some e) : t.row? = some [e] := by
  cases t with
  | group ts => cases h
  | _ => exact congrArg (Option.map fun e => [e]) h

/-- A value is a row of one. -/
lemma IsValue.row {t : Tree} {e : Expr} (h : t.IsValue p q e) : t.IsRow p q [e] := by
  obtain ⟨e', he', hagrees⟩ := h.means
  refine ⟨h.tight, [e'], row?_of_expr? he', fun columns hcovers => ?_⟩
  have heval := hagrees columns hcovers
  simp only at heval
  simp only [evalEach, heval]

lemma allFit_of_isValue {ts : List Tree} {es : List Expr}
    (h : List.Forall₂ (IsValue p q) ts es) : AllFit p ts := by
  induction h with
  | nil => trivial
  | cons ht _ ih => exact ⟨ht.tight.fits, ih⟩

lemma allFit_of_isRow {ts : List Tree} {rs : List Row} (h : List.Forall₂ (IsRow p q) ts rs) :
    AllFit p ts := by
  induction h with
  | nil => trivial
  | cons ht _ ih => exact ⟨ht.tight.fits, ih⟩

lemma mapM_expr? {ts : List Tree} {es : List Expr} (h : List.Forall₂ (IsValue p q) ts es) :
    ∃ es', ts.mapM expr? = some es' ∧ Agrees q (evalEach · es') (evalEach · es) := by
  induction h with
  | nil => exact ⟨[], rfl, fun _ _ => rfl⟩
  | cons ht _ ih =>
    obtain ⟨e', he', hagreee⟩ := ht.means
    obtain ⟨es', hes', hagreees⟩ := ih
    refine ⟨e' :: es', by simp [he', hes'], fun columns hcovers => ?_⟩
    have hevale := hagreee columns hcovers
    have hevales := hagreees columns hcovers
    simp only at hevale hevales
    simp only [evalEach, hevale, hevales]

lemma mapM_row? {ts : List Tree} {rs : List Row} (h : List.Forall₂ (IsRow p q) ts rs) :
    ∃ rs', ts.mapM row? = some rs' ∧ Agrees q (evalRows · rs') (evalRows · rs) := by
  induction h with
  | nil => exact ⟨[], rfl, fun _ _ => rfl⟩
  | cons ht _ ih =>
    obtain ⟨r', hr', hagreer⟩ := ht.means
    obtain ⟨rs', hrs', hagreers⟩ := ih
    refine ⟨r' :: rs', by simp [hr', hrs'], fun columns hcovers => ?_⟩
    have hevalr := hagreer columns hcovers
    have hevalrs := hagreers columns hcovers
    simp only at hevalr hevalrs
    simp only [evalRows, hevalr, hevalrs]

/-- Values in parentheses are a row. -/
lemma isRow_group {ts : List Tree} {es : List Expr} (h : List.Forall₂ (IsValue p q) ts es) :
    (group ts).IsRow p q es :=
  ⟨tight_group (allFit_of_isValue h), mapM_expr? h⟩

end Tree

namespace Draft

variable {p : Precedence} {q : Bool} {s : Scope}

lemma tokens_constant {c : Constant} (h : (constant s c).error? = none) :
    (constant s c).tokens = [.value c] := by
  rw [constant] at h ⊢
  split at h
  next hinline =>
    rw [if_pos hinline]
    cases hliteral : s.dialect.literal c.type c.value with
    | ok text => rfl
    | error e =>
      rw [hliteral] at h
      cases h
  next hinline => rw [if_neg hinline]; rfl

lemma tokens_qualified (n : NamePart) (ns : List NamePart) :
    (qualified ⟨n :: ns⟩).tokens = (Tree.name n ns).tokens := by
  have hdot : tokensOfText "." = Operator.dot.tokens := rfl
  have hok : (qualified ⟨n :: ns⟩).error? = none :=
    error?_separated.mpr (List.forall_mem_map.mpr fun m _ => rfl)
  refine tokens_separated_chain hdot hok rfl ?_
  rw [List.forall₂_map_left_iff, List.forall₂_map_right_iff]
  exact List.forall₂_same.mpr fun m _ => rfl

/-- The draft of a column is the text of the name that is shown of it. -/
lemma tokens_column {n : Name} (hn : n.parts ≠ []) :
    ∃ m ms, n.shown s.qualify = ⟨m :: ms⟩ ∧ (column s n).tokens = (Tree.name m ms).tokens := by
  obtain ⟨parts⟩ := n
  rw [column, Name.shown]
  cases s.qualify with
  | true =>
    obtain ⟨m, ms, rfl⟩ := List.exists_cons_of_ne_nil hn
    exact ⟨m, ms, rfl, tokens_qualified m ms⟩
  | false =>
    refine ⟨parts.getLast hn, [], ?_, ?_⟩
    · rw [Name.unqualified, List.getLast?_eq_some_getLast hn]
      rfl
    · rw [unqualified, List.getLast?_eq_some_getLast hn]
      rfl

lemma reads_constant (c : Constant) : (constant s c).Reads (·.IsValue p q (.constant c)) :=
  fun h => ⟨.value c, tokens_constant h, Tree.tight_value c, .constant c, rfl,
    fun columns _ => by simp only [Expr.eval]⟩

lemma reads_column {n : Name} {type : DataType} (hn : n.parts ≠ []) :
    (column s n).Reads (·.IsValue p s.qualify (.field n type)) := by
  intro _
  obtain ⟨m, ms, hshown, htokens⟩ := tokens_column (s := s) hn
  have hagrees := agrees_column s.qualify n type
  rw [hshown] at hagrees
  exact ⟨Tree.name m ms, htokens, Tree.tight_name m ms, _, Tree.expr?_name m ms, hagrees⟩

/-- Drafts with commas between them, each of which is the text of a tree. -/
lemma reads_commas {α : Type} {draft : α → Draft} {P : Tree → α → Prop} {as : List α}
    (h : ∀ a ∈ as, (draft a).Reads (P · a)) (hok : (commas (as.map draft)).error? = none) :
    ∃ ts, (commas (as.map draft)).tokens = Tree.tokensOfList ts ∧ List.Forall₂ P ts as := by
  -- a list fails if one of its parts does, so each part can be read
  have htrees : ∃ ts, List.Forall₂ (fun d t => d.tokens = t.tokens) (as.map draft) ts ∧
      List.Forall₂ P ts as := by
    have hoks := error?_separated.mp hok
    clear hok
    induction as with
    | nil => exact ⟨[], .nil, .nil⟩
    | cons a as ih =>
      obtain ⟨ha, has⟩ := List.forall_mem_cons.mp h
      obtain ⟨hoka, hokas⟩ := List.forall_mem_cons.mp hoks
      obtain ⟨t, htokens, hP⟩ := ha hoka
      obtain ⟨ts, htokenss, hPs⟩ := ih has hokas
      exact ⟨t :: ts, .cons htokens htokenss, .cons hP hPs⟩
  obtain ⟨ts, htokens, hP⟩ := htrees
  exact ⟨ts, tokens_commas hok htokens, hP⟩

end Draft

end Polysql

import Polysql.Operator
import Polysql.Proofs.Reading.Token
/-!
Trees of operators, written in one line. Their tokens do not show which operator has which operand
(`Tree.tokens`); that has to follow from the precedence of the operators and from parentheses, which
are part of a tree. A tree fits (`Tree.Fits`) if every operand binds tighter than its operator, or
as tight on the left.
-/

namespace Polysql

/-- The sign of a bitwise operator. -/
inductive BitSign where
  | ampersand
  | bar
  | caret
  | hash
  | shiftLeft
  | shiftRight
deriving DecidableEq

/-- The text of a sign. -/
def BitSign.text : BitSign → String
  | ampersand => "&"
  | bar => "|"
  | caret => "^"
  | hash => "#"
  | shiftLeft => "<<"
  | shiftRight => ">>"

/-- What stands between two operands. -/
inductive Operator where
  | or
  | xor
  | and
  | compare (op : CompareOp)
  | is
  | isIn (negate : Bool)
  /-- What stands before the lower bound of a `BETWEEN`. -/
  | lower (negate : Bool)
  /-- The `AND` before its upper bound. -/
  | upper
  | bitwise (sign : BitSign)
  | arith (op : ArithOp)
  /-- The dot inside of a name. -/
  | dot
  /-- The nothing between a function and its arguments. -/
  | apply
deriving DecidableEq

/-- What stands before an operand. -/
inductive Unary where
  | not
  | symmetric
  | minus
  | complement
deriving DecidableEq

/-- `NOT`, if something is negated. -/
def negation (negate : Bool) : List Token :=
  if negate then [.word "NOT"] else []

/-- The tokens of an operator. -/
def Operator.tokens : Operator → List Token
  | or => [.word "OR"]
  | xor => [.word "XOR"]
  | and | upper => [.word "AND"]
  | compare op => [.sign op.sign]
  | is => [.word "IS"]
  | isIn negate => negation negate ++ [.word "IN"]
  | lower negate => negation negate ++ [.word "BETWEEN"]
  | bitwise sign => [.sign sign.text]
  | arith op => [.sign op.sign]
  | dot => [.sign "."]
  | apply => []

/-- The token of an operator before its operand. -/
def Unary.token : Unary → Token
  | not => .word "NOT"
  | symmetric => .word "SYMMETRIC"
  | minus => .sign "-"
  | complement => .sign "~"

/-- The words that are operators or parts of them. -/
def operatorWords : List String :=
  ["OR", "XOR", "AND", "IS", "IN", "NOT", "BETWEEN", "SYMMETRIC"]

/-! ### Precedence -/

/-- How tight bitwise operators bind, which the engines do not agree about: tighter than comparisons
at any rate, and looser than the minus of a number. -/
structure Precedence where
  /-- The level of an operator. -/
  bitwise : BitSign → Nat
  lt_bitwise (sign : BitSign) : 6 < bitwise sign
  bitwise_lt (sign : BitSign) : bitwise sign < 40

/-- Bitwise operators that bind alike, and looser than sums. -/
instance : Inhabited Precedence :=
  ⟨⟨fun _ => 10, fun _ => by decide, fun _ => by decide⟩⟩

/-- How tight an operator binds. -/
def Operator.level (p : Precedence) : Operator → Nat
  | or => 1
  | xor => 2
  | and => 3
  | compare _ | is | isIn _ | lower _ | upper => 5
  | bitwise sign => p.bitwise sign
  | arith .add | arith .sub => 20
  | arith .mul | arith .div | arith .mod => 30
  | dot => 50
  | apply => 60

/-- How tight an operator before its operand binds. -/
def Unary.level : Unary → Nat
  | not => 4
  | symmetric => 6
  | minus | complement => 40

lemma Operator.level_le (p : Precedence) (op : Operator) : op.level p ≤ 60 := by
  cases op with
  | bitwise sign =>
    have := p.bitwise_lt sign
    rw [Operator.level]
    omega
  | arith op => cases op <;> simp [Operator.level]
  | _ => simp [Operator.level]

/-! ### Trees -/

/-- A text of operators and operands, with its parentheses. -/
inductive Tree where
  | word (s : String)
  | value (c : Constant)
  | part (p : NamePart)
  /-- Several operands in parentheses, or a single one. -/
  | group (ts : List Tree)
  | unary (q : Unary) (t : Tree)
  | binary (op : Operator) (left right : Tree)

namespace Tree

mutual

/-- The tokens of a tree from left to right. -/
def tokens : Tree → List Token
  | word s => [.word s]
  | value c => [.value c]
  | part p => [.part p]
  | group ts => .opening :: (tokensOfList ts ++ [.closing])
  | unary q t => q.token :: t.tokens
  | binary op l r => l.tokens ++ op.tokens ++ r.tokens

/-- The tokens of several trees, with commas between them. -/
def tokensOfList : List Tree → List Token
  | [] => []
  | t :: ts => t.tokens ++ tokensOfRest ts

/-- The tokens of several trees, each after a comma. -/
def tokensOfRest : List Tree → List Token
  | [] => []
  | t :: ts => .comma :: (t.tokens ++ tokensOfRest ts)

end

/-- A tree with an operator and its right operand put in on its right: below the operators that bind
looser, and above the others. -/
def insert (p : Precedence) (op : Operator) (t r : Tree) : Tree :=
  match t with
  | binary o a b =>
    if o.level p < op.level p then binary o a (b.insert p op r) else binary op t r
  | unary q a => if q.level < op.level p then unary q (a.insert p op r) else binary op t r
  | t => binary op t r

/-- The right edge of the tree has a lower bound whose upper bound is still missing. -/
def awaitsUpper : Tree → Bool
  | binary (.lower _) _ _ => true
  | binary _ _ b => b.awaitsUpper
  | unary _ a => a.awaitsUpper
  | _ => false

/-- All operators outside of parentheses bind tighter than a level. -/
def Above (p : Precedence) (level : Nat) : Tree → Prop
  | binary o a b => level < o.level p ∧ a.Above p level ∧ b.Above p level
  | unary _ a => a.Above p level
  | _ => True

/-- The tree is a left operand of an operator as it stands. -/
def LeftOf (p : Precedence) (op : Operator) : Tree → Prop
  | binary o _ _ => op.level p ≤ o.level p
  | unary q _ => op.level p ≤ q.level
  | _ => True

/-- The tree is in parentheses. -/
def IsGroup : Tree → Prop
  | group _ => True
  | _ => False

mutual

/-- Every operand in the tree binds tighter than its operator, or as tight on the left. The `AND` of
a `BETWEEN` comes after its lower bound, and arguments are in parentheses. -/
def Fits (p : Precedence) : Tree → Prop
  | word s => s ∉ operatorWords
  | value _ | part _ => True
  | group ts => AllFit p ts
  | unary q t => t.Fits p ∧ t.Above p q.level
  | binary op l r =>
    l.Fits p ∧ r.Fits p ∧ l.LeftOf p op ∧ r.Above p (op.level p) ∧
      (op = .and → l.awaitsUpper = false) ∧ (op = .upper → l.awaitsUpper = true) ∧
      (op = .apply → r.IsGroup)

/-- All trees of a list fit. -/
def AllFit (p : Precedence) : List Tree → Prop
  | [] => True
  | t :: ts => t.Fits p ∧ AllFit p ts

end

lemma allFit_iff {p : Precedence} {ts : List Tree} : AllFit p ts ↔ ∀ t ∈ ts, t.Fits p := by
  induction ts with
  | nil => simp [AllFit]
  | cons t ts ih => simp [AllFit, ih]

lemma fits_binary {p : Precedence} {op : Operator} {l r : Tree} (hl : l.Fits p) (hr : r.Fits p)
    (hleft : l.LeftOf p op) (habove : r.Above p (op.level p)) (hand : op ≠ .and)
    (hupper : op ≠ .upper) (happly : op ≠ .apply) : (binary op l r).Fits p :=
  ⟨hl, hr, hleft, habove, (absurd · hand), (absurd · hupper), (absurd · happly)⟩

/-! ### Putting in an operator -/

section

variable {p : Precedence} {o op : Operator}

/-- A left operand of an operator stays one. -/
lemma insert_of_leftOf {t : Tree} (h : t.LeftOf p op) (r : Tree) :
    t.insert p op r = binary op t r := by
  cases t with
  | binary o a b => exact if_neg (Nat.not_lt.mpr h)
  | unary q a => exact if_neg (Nat.not_lt.mpr h)
  | word s => rfl
  | value c => rfl
  | part p => rfl
  | group ts => rfl

/-- What binds tighter than an operator is put into the right operand of it. -/
lemma insert_insert (h : o.level p < op.level p) : ∀ x t r : Tree,
    (x.insert p o t).insert p op r = x.insert p o (t.insert p op r)
  | binary o' a b, t, r => by
    by_cases ho : o'.level p < o.level p
    · have hop : o'.level p < op.level p := by omega
      rw [insert, if_pos ho, insert, if_pos hop, insert_insert h b, insert, if_pos ho]
    · rw [insert, if_neg ho, insert, if_pos h, insert, if_neg ho]
  | unary q a, t, r => by
    by_cases ho : q.level < o.level p
    · have hop : q.level < op.level p := by omega
      rw [insert, if_pos ho, insert, if_pos hop, insert_insert h a, insert, if_pos ho]
    · rw [insert, if_neg ho, insert, if_pos h, insert, if_neg ho]
  | word s, t, r => if_pos h
  | value c, t, r => if_pos h
  | part p, t, r => if_pos h
  | group ts, t, r => if_pos h

/-! ### The bounds of a `BETWEEN` -/

lemma awaitsUpper_of_right {o : Operator} {a b : Tree} (h : b.awaitsUpper = true) :
    (binary o a b).awaitsUpper = true := by
  cases o <;> first | exact h | rfl

/-- An operator that binds looser than comparisons is no lower bound. -/
lemma awaitsUpper_binary (ho : o.level p < 5) (a b : Tree) :
    (binary o a b).awaitsUpper = b.awaitsUpper := by
  cases o with
  | lower negate => exact absurd ho (by simp [Operator.level])
  | _ => rfl

lemma awaitsUpper_insert (ho : o.level p < 5) : ∀ x t : Tree,
    (x.insert p o t).awaitsUpper = t.awaitsUpper
  | binary o' a b, t => by
    rw [insert]
    split
    next hlt => rw [awaitsUpper_binary (Nat.lt_trans hlt ho), awaitsUpper_insert ho b t]
    next => exact awaitsUpper_binary ho _ t
  | unary q a, t => by
    rw [insert]
    split
    next => rw [awaitsUpper, awaitsUpper_insert ho a t]
    next => exact awaitsUpper_binary ho _ t
  | word s, t => awaitsUpper_binary ho _ t
  | value c, t => awaitsUpper_binary ho _ t
  | part p, t => awaitsUpper_binary ho _ t
  | group ts, t => awaitsUpper_binary ho _ t

lemma awaitsUpper_insert_of_right {t : Tree} (h : t.awaitsUpper = true) : ∀ x : Tree,
    (x.insert p o t).awaitsUpper = true
  | binary o' a b => by
    rw [insert]
    split
    next => exact awaitsUpper_of_right (awaitsUpper_insert_of_right h b)
    next => exact awaitsUpper_of_right h
  | unary q a => by
    rw [insert]
    split
    next => exact awaitsUpper_insert_of_right h a
    next => exact awaitsUpper_of_right h
  | word s => awaitsUpper_of_right h
  | value c => awaitsUpper_of_right h
  | part p => awaitsUpper_of_right h
  | group ts => awaitsUpper_of_right h

/-! ### Fitting trees -/

lemma Above.mono {j k : Nat} (hjk : j ≤ k) : ∀ {t : Tree}, t.Above p k → t.Above p j
  | binary _ _ _, h => ⟨Nat.lt_of_le_of_lt hjk h.1, h.2.1.mono hjk, h.2.2.mono hjk⟩
  | unary _ a, h => Above.mono (t := a) hjk h
  | word _, _ => trivial
  | value _, _ => trivial
  | part _, _ => trivial
  | group _, _ => trivial

lemma Above.insert {k : Nat} (hop : k < op.level p) {r : Tree} (hr : r.Above p k) :
    ∀ {x : Tree}, x.Above p k → (Tree.insert p op x r).Above p k
  | binary o a b, h => by
    rw [Tree.insert]
    split
    next => exact ⟨h.1, h.2.1, Above.insert (x := b) hop hr h.2.2⟩
    next => exact ⟨hop, h, hr⟩
  | unary q a, h => by
    rw [Tree.insert]
    split
    next => exact Above.insert (x := a) hop hr h
    next => exact ⟨hop, h, hr⟩
  | word _, _ => ⟨hop, trivial, hr⟩
  | value _, _ => ⟨hop, trivial, hr⟩
  | part _, _ => ⟨hop, trivial, hr⟩
  | group _, _ => ⟨hop, trivial, hr⟩

/-- The operand that an operator can get on its right where it is put in after a tree. -/
structure RightOf (p : Precedence) (op : Operator) (x r : Tree) : Prop where
  fits : r.Fits p
  above : r.Above p (op.level p)
  and : op = .and → x.awaitsUpper = false
  upper : op = .upper → x.awaitsUpper = true
  apply : op = .apply → r.IsGroup

lemma RightOf.binary {x r : Tree} (h : RightOf p op x r) (hx : x.Fits p) (hleft : x.LeftOf p op) :
    (binary op x r).Fits p :=
  ⟨hx, h.fits, hleft, h.above, h.and, h.upper, h.apply⟩

/-- A fitting tree still fits with an operator put in. -/
lemma Fits.insert : ∀ {x r : Tree}, x.Fits p → RightOf p op x r → (Tree.insert p op x r).Fits p
  | .binary o a b, r, hx, hr => by
    -- the operator goes down the right side until it meets one that binds no tighter
    rw [Tree.insert]
    split
    next hlt =>
      obtain ⟨ha, hb, hleft, habove, hand, hupper, happly⟩ := hx
      have hr' : RightOf p op b r :=
        { fits := hr.fits
          above := hr.above
          and := fun h => by
            have hx := hr.and h
            cases hawaits : b.awaitsUpper with
            | false => rfl
            | true => simp [awaitsUpper_of_right hawaits] at hx
          upper := fun h => by
            have ho : o.level p < 5 := by simpa [h, Operator.level] using hlt
            rw [← awaitsUpper_binary ho a b]
            exact hr.upper h
          apply := hr.apply }
      refine ⟨ha, hb.insert hr', hleft, ?_, hand, hupper, fun h => ?_⟩
      · exact Above.insert hlt (hr.above.mono (Nat.le_of_lt hlt)) habove
      · -- nothing binds tighter than a call
        have hle := op.level_le p
        rw [h, Operator.level] at hlt
        omega
    next hlt => exact hr.binary hx (Nat.not_lt.mp hlt)
  | .unary q a, r, hx, hr => by
    rw [Tree.insert]
    split
    next hlt =>
      have hr' : RightOf p op a r := { hr with }
      exact ⟨hx.1.insert hr', Above.insert hlt (hr.above.mono (Nat.le_of_lt hlt)) hx.2⟩
    next hlt => exact hr.binary hx (Nat.not_lt.mp hlt)
  | .word _, _, hx, hr => hr.binary hx trivial
  | .value _, _, hx, hr => hr.binary hx trivial
  | .part _, _, hx, hr => hr.binary hx trivial
  | .group _, _, hx, hr => hr.binary hx trivial

end

end Tree

end Polysql

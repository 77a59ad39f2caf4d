import Polysql.Draft.Select
import Polysql.Proofs.Place.Move
/-!
Queries combined by set operations, as they are written: one after the other, with parentheses
around some of them. What is an operand of what has to follow from the parentheses and from the
precedence of the operations, where `INTERSECT` binds tighter than `UNION` and `EXCEPT` and
operations that bind alike are taken from the left. A reader settles that token by token, and reads
the tokens of a combination as the combination itself exactly if it fits (`Combination.Fits`,
`Combination.read_iff`).
-/

namespace Polysql

/-! ### Combinations -/

/-- A set operation with the place where it is written. -/
structure SetOperator where
  /-- What is done with the rows. -/
  op : SetOp
  /-- Rows are kept as often as they come. -/
  all : Bool
  /-- The depth of its clause. -/
  depth : Nat

namespace SetOperator

/-- How tight an operation binds. -/
def level (o : SetOperator) : Nat :=
  match o.op with
  | .union | .except => 1
  | .intersect => 2

/-- The words of an operation. -/
def words (f : Family) (o : SetOperator) : String :=
  let word := match o.op with
    | .union => "UNION"
    | .intersect => "INTERSECT"
    | .except => if f = .oracle then "MINUS" else "EXCEPT"
  word ++ (if o.all then " ALL " else " ")

/-- What binds as tight as an operation or tighter. -/
lemma level_le_iff (o o' : SetOperator) :
    o'.level ≤ o.level ↔ (o'.op = .intersect → o.op = .intersect) := by
  cases h : o.op <;> cases h' : o'.op <;> simp [level, h, h']

end SetOperator

/-- Queries and what is made of them. -/
inductive Combination where
  /-- A query without set operations. -/
  | query (d : Draft)
  /-- A combination in parentheses, with what stands before and behind it there. -/
  | group (front : Draft) (c : Combination) (ending : Draft)
  /-- A set operation. -/
  | operation (o : SetOperator) (left right : Combination)

/-- What a reader of a combination sees at once. -/
inductive SetToken where
  | query (d : Draft)
  | operator (o : SetOperator)
  | opening (front : Draft)
  | closing (ending : Draft)

namespace SetToken

/-- The draft of a token. -/
def draft (f : Family) : SetToken → Draft
  | query d => d
  | operator o => .ofPiece (.clause o.depth) ++ .text (o.words f)
  | opening front => "(" ++ front
  | closing ending => ending ++ ")"

/-- The draft of several tokens. -/
def drafts (f : Family) (tokens : List SetToken) : Draft :=
  .concat (tokens.map (draft f))

@[simp] lemma drafts_cons (f : Family) (token : SetToken) (tokens : List SetToken) :
    drafts f (token :: tokens) = token.draft f ++ drafts f tokens :=
  rfl

@[simp] lemma drafts_append (f : Family) (a b : List SetToken) :
    drafts f (a ++ b) = drafts f a ++ drafts f b := by
  rw [drafts, List.map_append, Draft.concat_append]
  rfl

@[simp] lemma drafts_singleton (f : Family) (token : SetToken) :
    drafts f [token] = token.draft f :=
  Draft.append_empty _

end SetToken

namespace Combination

/-- The tokens of a combination from left to right. -/
def tokens : Combination → List SetToken
  | query d => [.query d]
  | group front c ending => .opening front :: (c.tokens ++ [.closing ending])
  | operation o l r => l.tokens ++ .operator o :: r.tokens

/-- What a combination stands for, given what queries, parentheses and operations stand for. -/
def denote {α : Type} (query : Draft → α) (group : Draft → Draft → α → α)
    (operate : SetOp → Bool → α → α → α) : Combination → α
  | .query d => query d
  | .group front c ending => group front ending (c.denote query group operate)
  | .operation o l r =>
    operate o.op o.all (l.denote query group operate) (r.denote query group operate)

/-- How often a row comes of a set operation, given how often it comes of the operands. -/
def rowCount (op : SetOp) (all : Bool) (m n : Nat) : Nat :=
  match op, all with
  | .union, true => m + n
  | .union, false => min 1 (m + n)
  | .intersect, true => min m n
  | .intersect, false => min 1 (min m n)
  | .except, true => m - n
  | .except, false => if n = 0 then min 1 m else 0

/-- A combination with an operation and its right operand put in on its right: below the operations
that bind looser, and above the others. -/
def insert (o : SetOperator) (c r : Combination) : Combination :=
  match c with
  | operation o' a b =>
    if o'.level < o.level then operation o' a (b.insert o r) else operation o c r
  | c => operation o c r

/-- The combination is a left operand of an operation as it stands. -/
def LeftOf (o : SetOperator) : Combination → Prop
  | operation o' _ _ => o.level ≤ o'.level
  | _ => True

/-- All operations outside of parentheses bind tighter than a level. -/
def Above (level : Nat) : Combination → Prop
  | operation o a b => level < o.level ∧ a.Above level ∧ b.Above level
  | _ => True

/-- Every operand binds tighter than its operation, or as tight on the left. -/
def Fits : Combination → Prop
  | query _ => True
  | group _ c _ => c.Fits
  | operation o l r => l.Fits ∧ r.Fits ∧ l.LeftOf o ∧ r.Above o.level

/-! ### The reader -/

/-- The place of an operand: an operation and its left operand may stand before it. -/
abbrev Place := Option (Combination × SetOperator)

/-- What is read at a place, put to what stands before it. -/
def fill (place : Place) (c : Combination) : Combination :=
  match place with
  | none => c
  | some (l, o) => l.insert o c

/-- What comes next. -/
inductive Progress where
  /-- An operand. -/
  | due (place : Place)
  /-- Something after a combination. -/
  | full (c : Combination)

/-- A reader of tokens. -/
structure Reader where
  /-- The parentheses that are open: where each stands and what comes after it. -/
  outer : List (Place × Draft)
  /-- How far the innermost one has been read. -/
  progress : Progress

namespace Reader

/-- The reader before the first token. -/
def start : Reader :=
  ⟨[], .due none⟩

/-- The reader after one more token. -/
def step (r : Reader) (token : SetToken) : Option Reader :=
  match r.progress, token with
  | .due place, .query d => some { r with progress := .full (fill place (query d)) }
  | .due place, .opening front => some ⟨(place, front) :: r.outer, .due none⟩
  | .full c, .operator o => some { r with progress := .due (some (c, o)) }
  | .full c, .closing ending =>
    match r.outer with
    | [] => none
    | (place, front) :: outer => some ⟨outer, .full (fill place (group front c ending))⟩
  | _, _ => none

/-- The reader after several tokens. -/
def steps (r : Reader) (tokens : List SetToken) : Option Reader :=
  tokens.foldlM step r

/-- What has been read, if nothing is missing. -/
def result? (r : Reader) : Option Combination :=
  match r.outer, r.progress with
  | [], .full c => some c
  | _, _ => none

end Reader

/-- The combination that tokens are read as. -/
def read (tokens : List SetToken) : Option Combination :=
  (Reader.start.steps tokens).bind Reader.result?

/-! ### Putting in an operation -/

section

variable {o o' : SetOperator}

/-- A left operand of an operation stays one. -/
lemma insert_of_leftOf {c : Combination} (h : c.LeftOf o) (r : Combination) :
    c.insert o r = operation o c r := by
  cases c with
  | operation o' a b => exact if_neg (Nat.not_lt.mpr h)
  | query d => rfl
  | group front c ending => rfl

/-- What binds tighter than an operation is put into the right operand of it. -/
lemma insert_insert (h : o.level < o'.level) (x c r : Combination) :
    (x.insert o c).insert o' r = x.insert o (c.insert o' r) := by
  induction x with
  | query d => exact if_pos h
  | group front x ending _ => exact if_pos h
  | operation p a b _ ihb =>
    by_cases hp : p.level < o.level
    · have hp' : p.level < o'.level := Nat.lt_trans hp h
      rw [insert, if_pos hp, insert, if_pos hp', ihb, insert, if_pos hp]
    · rw [insert, if_neg hp, insert, if_pos h, insert, if_neg hp]

lemma Above.insert {k : Nat} (ho : k < o.level) {x r : Combination} (hr : r.Above k)
    (hx : x.Above k) : (x.insert o r).Above k := by
  induction x with
  | query d => exact ⟨ho, trivial, hr⟩
  | group front x ending _ => exact ⟨ho, trivial, hr⟩
  | operation p a b _ ihb =>
    rw [Combination.insert]
    split
    next => exact ⟨hx.1, hx.2.1, ihb hx.2.2⟩
    next => exact ⟨ho, hx, hr⟩

/-- A query, or something in parentheses. -/
def IsOperand : Combination → Prop
  | operation _ _ _ => False
  | _ => True

lemma IsOperand.leftOf {c : Combination} (h : c.IsOperand) (o : SetOperator) : c.LeftOf o := by
  cases c with
  | operation => exact h.elim
  | _ => trivial

lemma IsOperand.above {c : Combination} (h : c.IsOperand) (level : Nat) : c.Above level := by
  cases c with
  | operation => exact h.elim
  | _ => trivial

/-- A fitting combination still fits with an operation put in. -/
lemma Fits.insert {x r : Combination} (hx : x.Fits) (hr : r.Fits) (hoperand : r.IsOperand) :
    (x.insert o r).Fits := by
  induction x with
  | query d => exact ⟨trivial, hr, trivial, hoperand.above _⟩
  | group front x ending _ => exact ⟨hx, hr, trivial, hoperand.above _⟩
  | operation p a b _ ihb =>
    rw [Combination.insert]
    split
    next hlt =>
      obtain ⟨ha, hb, hleft, habove⟩ := hx
      exact ⟨ha, ihb hb, hleft, Above.insert hlt (hoperand.above _) habove⟩
    next hlt => exact ⟨hx, hr, Nat.not_lt.mp hlt, hoperand.above _⟩

end

/-! ### Fitting combinations are read -/

namespace Reader

variable {outer : List (Place × Draft)}

lemma steps_cons (r : Reader) (token : SetToken) (tokens : List SetToken) :
    r.steps (token :: tokens) = (r.step token).bind (steps · tokens) :=
  rfl

lemma steps_append (r : Reader) (a b : List SetToken) :
    r.steps (a ++ b) = (r.steps a).bind (steps · b) :=
  List.foldlM_append

/-- The operations of a combination bind tighter than the one before a place. -/
def Takes (place : Place) (c : Combination) : Prop :=
  ∀ l o, place = some (l, o) → c.Above o.level

lemma insert_fill {place : Place} {o : SetOperator} {l r : Combination}
    (htakes : Takes place (operation o l r)) (hleft : l.LeftOf o) :
    (fill place l).insert o r = fill place (operation o l r) := by
  cases place with
  | none => exact insert_of_leftOf hleft r
  | some p =>
    obtain ⟨x, p⟩ := p
    have hlt := (htakes x p rfl).1
    rw [fill, insert_insert hlt, insert_of_leftOf hleft, fill]

/-- A fitting combination is read at a place that takes it. -/
lemma steps_tokens {c : Combination} (h : c.Fits) {place : Place} (htakes : Takes place c) :
    (Reader.mk outer (.due place)).steps c.tokens = some ⟨outer, .full (fill place c)⟩ := by
  -- for every reader, as the parts of an operation are read at places of their own
  induction c generalizing outer place with
  | query d => rfl
  | group front c ending ih =>
    rw [tokens, steps_cons]
    change (Reader.mk ((place, front) :: outer) (.due none)).steps
      (c.tokens ++ [.closing ending]) = _
    rw [steps_append, ih h fun _ _ hnone => by cases hnone]
    rfl
  | operation o l r ihl ihr =>
    obtain ⟨hl, hr, hleft, habove⟩ := h
    have hltakes : Takes place l := fun x p hplace => (htakes x p hplace).2.1
    have hrtakes : Takes (some (fill place l, o)) r := fun x p hplace => by
      cases hplace
      exact habove
    -- the left operand fills the place, and the operation then waits for the right one
    rw [tokens, steps_append, ihl hl hltakes, Option.bind_some, steps_cons]
    change (Reader.mk outer (.due (some (fill place l, o)))).steps r.tokens = _
    rw [ihr hr hrtakes, ← insert_fill htakes hleft]
    rfl

/-! ### What is read fits -/

/-- What stands before a place fits. -/
def FitsAt (place : Place) : Prop :=
  ∀ l o, place = some (l, o) → l.Fits

/-- What has been read fits. -/
structure Fits (r : Reader) : Prop where
  outer {place : Place} {front : Draft} (h : (place, front) ∈ r.outer) : FitsAt place
  due {place : Place} (h : r.progress = .due place) : FitsAt place
  full {c : Combination} (h : r.progress = .full c) : c.Fits

lemma FitsAt.fill {place : Place} (h : FitsAt place) {c : Combination} (hc : c.Fits)
    (hoperand : c.IsOperand) : (Combination.fill place c).Fits := by
  cases place with
  | none => exact hc
  | some p => exact (h p.1 p.2 rfl).insert hc hoperand

/-- A token leaves a fitting reader. -/
lemma Fits.step {r r' : Reader} (h : r.Fits) {token : SetToken} (hstep : r.step token = some r') :
    r'.Fits := by
  obtain ⟨outer, progress⟩ := r
  -- a query or a parenthesis is due, or an operator or the end of a group; the rest is refused
  cases progress with
  | due place =>
    have hplace := h.due rfl
    cases token with
    | query d =>
      cases hstep
      exact
        { outer := h.outer
          due := nofun
          full := fun heq => by
            cases heq
            exact hplace.fill trivial trivial }
    | opening front =>
      cases hstep
      exact
        { outer := fun hmem => by
            rcases List.mem_cons.mp hmem with heq | hmem
            · cases heq
              exact hplace
            · exact h.outer hmem
          due := fun heq => by
            cases heq
            exact nofun
          full := nofun }
    | operator o => cases hstep
    | closing ending => cases hstep
  | full c =>
    have hc := h.full rfl
    cases token with
    | query d => cases hstep
    | opening front => cases hstep
    | operator o =>
      cases hstep
      exact
        { outer := h.outer
          due := fun heq => by
            cases heq
            intro l p hplace
            cases hplace
            exact hc
          full := nofun }
    | closing ending =>
      cases outer with
      | nil => cases hstep
      | cons head outer =>
        obtain ⟨place, front⟩ := head
        cases hstep
        -- what stands in the group goes where the group was due
        have hhead : FitsAt place := h.outer List.mem_cons_self
        exact
          { outer := fun hmem => h.outer (List.mem_cons_of_mem _ hmem)
            due := nofun
            full := fun heq => by
              cases heq
              exact hhead.fill hc trivial }

/-- Tokens leave a fitting reader. -/
lemma Fits.steps {r r' : Reader} {tokens : List SetToken} (h : r.Fits)
    (hsteps : r.steps tokens = some r') : r'.Fits := by
  induction tokens generalizing r with
  | nil =>
    cases hsteps
    exact h
  | cons token tokens ih =>
    rw [steps_cons] at hsteps
    obtain ⟨r'', hstep, hrest⟩ := Option.bind_eq_some_iff.mp hsteps
    exact ih (h.step hstep) hrest

lemma fits_start : start.Fits where
  outer := nofun
  due heq := by
    cases heq
    exact nofun
  full := nofun

end Reader

/-- Whatever is read fits. -/
lemma fits_of_read {tokens : List SetToken} {c : Combination} (h : read tokens = some c) :
    c.Fits := by
  obtain ⟨r, hsteps, hresult⟩ := Option.bind_eq_some_iff.mp h
  have hfits := Reader.fits_start.steps hsteps
  rw [Reader.result?] at hresult
  split at hresult
  next hfull =>
    cases hresult
    exact hfits.full hfull
  next => cases hresult

/-- The tokens of a combination are read as the combination itself if and only if it fits. -/
theorem read_iff {c : Combination} : read c.tokens = some c ↔ c.Fits := by
  constructor
  · exact fits_of_read
  · intro h
    rw [read, Reader.start, Reader.steps_tokens h fun _ _ hnone => by cases hnone]
    rfl

end Combination

end Polysql

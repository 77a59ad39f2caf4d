import Polysql.Proofs.Reading.Tree
/-!
A reader of tokens, which takes one after the other and settles by precedence which operands each
operator has. It reads the tokens of a tree as the tree itself if and only if the tree fits
(`read_tokens_iff`).
-/

namespace Polysql

open Polysql.Tree

/-! ### What tokens stand for -/

/-- The operator before an operand that a token stands for. -/
def Unary.ofToken? : Token → Option Unary
  | .word "NOT" => some not
  | .word "SYMMETRIC" => some symmetric
  | .sign "-" => some minus
  | .sign "~" => some complement
  | _ => none

/-- The operand that a token stands for. -/
def Tree.ofToken? : Token → Option Tree
  | .word s => if s ∈ operatorWords then none else some (word s)
  | .value c => some (value c)
  | .part p => some (part p)
  | _ => none

/-- The operator after a tree that a token stands for. -/
def Operator.ofToken? (t : Tree) : Token → Option Operator
  | .word "OR" => some or
  | .word "XOR" => some xor
  | .word "AND" => some (if t.awaitsUpper then upper else and)
  | .word "IS" => some is
  | .word "IN" => some (isIn false)
  | .word "BETWEEN" => some (lower false)
  | .sign "=" => some (compare .eq)
  | .sign "<>" => some (compare .ne)
  | .sign "<" => some (compare .lt)
  | .sign "<=" => some (compare .le)
  | .sign ">" => some (compare .gt)
  | .sign ">=" => some (compare .ge)
  | .sign "&" => some (bitwise .ampersand)
  | .sign "|" => some (bitwise .bar)
  | .sign "^" => some (bitwise .caret)
  | .sign "#" => some (bitwise .hash)
  | .sign "<<" => some (bitwise .shiftLeft)
  | .sign ">>" => some (bitwise .shiftRight)
  | .sign "+" => some (arith .add)
  | .sign "-" => some (arith .sub)
  | .sign "*" => some (arith .mul)
  | .sign "/" => some (arith .div)
  | .sign "%" => some (arith .mod)
  | .sign "." => some dot
  | _ => none

/-- The operator that a token stands for after `NOT`. -/
def Operator.ofNegated? : Token → Option Operator
  | .word "IN" => some (isIn true)
  | .word "BETWEEN" => some (lower true)
  | _ => none

/-! ### Reading -/

/-- A place where an operand is due: after an operator, and after those that stand before it. -/
structure Place where
  /-- What stands before the place, and the operator after it. -/
  left? : Option (Tree × Operator)
  /-- The operators before the operand, the outermost one first. -/
  unaries : List Unary

namespace Place

/-- The place at the start of a text. -/
def start : Place := ⟨none, []⟩

/-- The place on the right of an operator. -/
def rightOf (t : Tree) (op : Operator) : Place := ⟨some (t, op), []⟩

/-- The place after a further operator before the operand. -/
def add (pl : Place) (q : Unary) : Place :=
  { pl with unaries := pl.unaries ++ [q] }

/-- An operand with the operators before it. -/
def underUnaries (pl : Place) (t : Tree) : Tree :=
  pl.unaries.foldr unary t

/-- The tree that has an operand at the place. -/
def fill (p : Precedence) (pl : Place) (t : Tree) : Tree :=
  match pl.left? with
  | none => pl.underUnaries t
  | some (l, op) => l.insert p op (pl.underUnaries t)

end Place

/-- What has been read since the last parenthesis or comma. -/
inductive Progress where
  /-- An operand is due. -/
  | due (pl : Place)
  /-- A tree, which can be the left operand of an operator. -/
  | full (t : Tree)
  /-- A tree and `NOT`. -/
  | negated (t : Tree)

/-- What has been read so far. -/
structure Reader where
  /-- The places of the parentheses that are open, and what stands in those around them. -/
  outer : List (Place × List Tree)
  /-- The trees before the last comma. -/
  items : List Tree
  /-- What has been read after it. -/
  progress : Progress

namespace Reader

/-- Nothing has been read. -/
def start : Reader :=
  ⟨[], [], .due .start⟩

/-- A parenthesis is opened at a place. -/
def enter (r : Reader) (pl : Place) : Reader :=
  ⟨(pl, r.items) :: r.outer, [], .due .start⟩

/-- The parenthesis that was opened last is closed around some trees. -/
def leave (p : Precedence) (r : Reader) (ts : List Tree) : Option Reader :=
  match r.outer with
  | [] => none
  | (pl, items) :: outer => some ⟨outer, items, .full (pl.fill p (group ts))⟩

/-- A token where an operand is due. -/
def stepDue (p : Precedence) (r : Reader) (pl : Place) (token : Token) : Option Reader :=
  match token with
  | .opening => some (r.enter pl)
  | .closing =>
    match r.items, pl with
    | [], ⟨none, []⟩ => r.leave p []
    | _, _ => none
  | token =>
    match Unary.ofToken? token with
    | some q => some { r with progress := .due (pl.add q) }
    | none => (Tree.ofToken? token).map fun t => { r with progress := .full (pl.fill p t) }

/-- A token after a tree. -/
def stepFull (p : Precedence) (r : Reader) (t : Tree) (token : Token) : Option Reader :=
  match token with
  | .opening => some (r.enter (.rightOf t .apply))
  | .closing => r.leave p (r.items ++ [t])
  | .comma =>
    match r.outer with
    | [] => none
    | _ => some { r with items := r.items ++ [t], progress := .due .start }
  | .word "NOT" => some { r with progress := .negated t }
  | token =>
    (Operator.ofToken? t token).map fun op => { r with progress := .due (.rightOf t op) }

/-- A token after what has been read, if it can stand there. -/
def step (p : Precedence) (r : Reader) (token : Token) : Option Reader :=
  match r.progress with
  | .due pl => r.stepDue p pl token
  | .full t => r.stepFull p t token
  | .negated t =>
    (Operator.ofNegated? token).map fun op => { r with progress := .due (.rightOf t op) }

/-- Tokens after what has been read. -/
def steps (p : Precedence) (r : Reader) (tokens : List Token) : Option Reader :=
  tokens.foldlM (step p) r

/-- The tree that has been read, if nothing is missing. -/
def result? (r : Reader) : Option Tree :=
  match r.outer, r.items, r.progress with
  | [], [], .full t => some t
  | _, _, _ => none

end Reader

/-- The tree that tokens are read as. -/
def read (p : Precedence) (tokens : List Token) : Option Tree :=
  (Reader.start.steps p tokens).bind Reader.result?

/-! ### Places -/

namespace Place

variable {p : Precedence} {pl : Place}

/-- All operators of a tree bind tighter than those around the place. -/
structure Takes (p : Precedence) (pl : Place) (t : Tree) : Prop where
  left {l : Tree} {op : Operator} (h : pl.left? = some (l, op)) : t.Above p (op.level p)
  unaries {q : Unary} (h : q ∈ pl.unaries) : t.Above p q.level

lemma takes_start (t : Tree) : start.Takes p t where
  left h := by cases h
  unaries h := by cases h

lemma takes_rightOf {l t : Tree} {op : Operator} (h : t.Above p (op.level p)) :
    (rightOf l op).Takes p t where
  left hl := by
    cases hl
    exact h
  unaries h := by cases h

lemma Takes.add {q : Unary} {t : Tree} (h : pl.Takes p (unary q t)) (hq : t.Above p q.level) :
    (pl.add q).Takes p t where
  left hl := (h.left hl : _)
  unaries hmem := by
    rcases List.mem_append.mp hmem with hmem | hmem
    · exact h.unaries hmem
    · rw [List.mem_singleton.mp hmem]
      exact hq

lemma fill_add (q : Unary) (t : Tree) : (pl.add q).fill p t = pl.fill p (unary q t) := by
  simp only [fill, underUnaries, add, List.foldr_append, List.foldr_cons, List.foldr_nil]

/-- An operator after operators that bind looser is put in below them. -/
lemma foldr_unary_insert {op : Operator} (t r : Tree) : ∀ {qs : List Unary},
    (∀ q ∈ qs, q.level < op.level p) →
      (qs.foldr unary t).insert p op r = qs.foldr unary (t.insert p op r)
  | [], _ => rfl
  | q :: qs, h => by
    obtain ⟨hq, hqs⟩ := List.forall_mem_cons.mp h
    rw [List.foldr_cons, Tree.insert, if_pos hq, foldr_unary_insert t r hqs, List.foldr_cons]

/-- An operator that binds tighter than those around a place is put in at the place. -/
lemma insert_fill {op : Operator} {l r : Tree} (h : pl.Takes p (binary op l r))
    (hleft : l.LeftOf p op) :
    (pl.fill p l).insert p op r = pl.fill p (binary op l r) := by
  have hunaries : (pl.underUnaries l).insert p op r = pl.underUnaries (binary op l r) := by
    rw [underUnaries, foldr_unary_insert l r fun q hq => (h.unaries hq).1,
      insert_of_leftOf hleft, underUnaries]
  rw [fill, fill]
  split
  next => exact hunaries
  next x o hx => rw [insert_insert (h.left hx).1, hunaries]

lemma awaitsUpper_underUnaries (t : Tree) : (pl.underUnaries t).awaitsUpper = t.awaitsUpper := by
  rw [underUnaries]
  induction pl.unaries with
  | nil => rfl
  | cons q qs ih => rw [List.foldr_cons, awaitsUpper, ih]

/-- An upper bound that is missing in an operand is missing at its place. -/
lemma awaitsUpper_fill {t : Tree} (h : t.awaitsUpper = true) :
    (pl.fill p t).awaitsUpper = true := by
  have hunaries : (pl.underUnaries t).awaitsUpper = true := (awaitsUpper_underUnaries t).trans h
  rw [fill]
  split
  next => exact hunaries
  next x o _ => exact awaitsUpper_insert_of_right hunaries x

/-- The place of an operand of `AND` does not lack an upper bound itself. -/
lemma awaitsUpper_fill_of_takes {l r : Tree} (h : pl.Takes p (binary .and l r)) :
    (pl.fill p l).awaitsUpper = l.awaitsUpper := by
  rw [fill]
  split
  next => exact awaitsUpper_underUnaries l
  next x o hx =>
    have ho : o.level p < 3 := (h.left hx).1
    rw [awaitsUpper_insert (by omega), awaitsUpper_underUnaries]

end Place

/-! ### Fitting trees are read -/

namespace Reader

variable {p : Precedence} {outer : List (Place × List Tree)} {items : List Tree}

lemma steps_cons (r : Reader) (token : Token) (tokens : List Token) :
    r.steps p (token :: tokens) = (r.step p token).bind (steps p · tokens) :=
  rfl

lemma steps_append (r : Reader) (a b : List Token) :
    r.steps p (a ++ b) = (r.steps p a).bind (steps p · b) :=
  List.foldlM_append

/-- The tokens of an operator after its left operand. -/
lemma steps_operator {op : Operator} {t : Tree} (hand : op = .and → t.awaitsUpper = false)
    (hupper : op = .upper → t.awaitsUpper = true) (happly : op ≠ .apply) :
    (Reader.mk outer items (.full t)).steps p op.tokens =
      some ⟨outer, items, .due (.rightOf t op)⟩ := by
  cases op with
  | and => simp [steps, step, stepFull, Operator.tokens, Operator.ofToken?, hand rfl]
  | upper => simp [steps, step, stepFull, Operator.tokens, Operator.ofToken?, hupper rfl]
  | apply => exact absurd rfl happly
  | compare op => cases op <;> rfl
  | isIn negate => cases negate <;> rfl
  | lower negate => cases negate <;> rfl
  | bitwise sign => cases sign <;> rfl
  | arith op => cases op <;> rfl
  | _ => rfl

lemma step_unary (pl : Place) (q : Unary) :
    (Reader.mk outer items (.due pl)).step p q.token =
      some ⟨outer, items, .due (pl.add q)⟩ := by
  cases q <;> rfl

lemma step_word (pl : Place) {s : String} (h : s ∉ operatorWords) :
    (Reader.mk outer items (.due pl)).step p (.word s) =
      some ⟨outer, items, .full (pl.fill p (word s))⟩ := by
  have hnot : s ≠ "NOT" := by rintro rfl; simp [operatorWords] at h
  have hsymmetric : s ≠ "SYMMETRIC" := by rintro rfl; simp [operatorWords] at h
  simp [step, stepDue, Unary.ofToken?, Tree.ofToken?, h, hnot, hsymmetric]

/-- Arguments follow their function without an operator between them. -/
lemma steps_group_of_full (t : Tree) (ts : List Tree) :
    (Reader.mk outer items (.full t)).steps p (group ts).tokens =
      (Reader.mk outer items (.due (.rightOf t .apply))).steps p (group ts).tokens := by
  rw [tokens, steps_cons, steps_cons]
  rfl

mutual

/-- A fitting tree is read at a place that takes it. -/
theorem steps_tokens {outer : List (Place × List Tree)} {items : List Tree} {pl : Place} :
    ∀ {t : Tree}, t.Fits p → pl.Takes p t →
      (Reader.mk outer items (.due pl)).steps p t.tokens =
        some ⟨outer, items, .full (pl.fill p t)⟩
  | .word s, h, _ => by
    rw [tokens, steps_cons, step_word pl h]
    rfl
  | .value c, _, _ => rfl
  | .part n, _, _ => rfl
  | .unary q t, h, htakes => by
    obtain ⟨hfits, habove⟩ := h
    rw [tokens, steps_cons, step_unary, Option.bind_some, steps_tokens hfits (htakes.add habove),
      Place.fill_add]
  | .binary op l r, h, htakes => by
    obtain ⟨hl, hr, hleft, habove, hand, hupper, happly⟩ := h
    -- the left operand takes part in what stands before the place
    have hltakes : pl.Takes p l :=
      { left := fun hx => (htakes.left hx).2.1
        unaries := fun hq => (htakes.unaries hq).2.1 }
    have hright : (Reader.mk outer items (.due (.rightOf (pl.fill p l) op))).steps p r.tokens =
        some ⟨outer, items, .full ((Place.rightOf (pl.fill p l) op).fill p r)⟩ :=
      steps_tokens hr (Place.takes_rightOf habove)
    have hfill : (Place.rightOf (pl.fill p l) op).fill p r = pl.fill p (binary op l r) :=
      Place.insert_fill htakes hleft
    rw [tokens, steps_append, steps_append, steps_tokens hl hltakes, Option.bind_some]
    rw [hfill] at hright
    by_cases hop : op = .apply
    · subst hop
      obtain ⟨ts, rfl⟩ : ∃ ts, r = group ts := by
        cases r with
        | group ts => exact ⟨ts, rfl⟩
        | _ => exact (happly rfl).elim
      rw [← hright, ← steps_group_of_full]
      rfl
    · rw [steps_operator (fun h => ?_) (fun h => Place.awaitsUpper_fill (hupper h)) hop,
        Option.bind_some, hright]
      subst h
      rw [Place.awaitsUpper_fill_of_takes htakes, hand rfl]
  | .group [], _, _ => by
    obtain ⟨l?, qs⟩ := pl
    rfl
  | .group (t :: ts), h, _ => by
    obtain ⟨ht, hts⟩ := h
    rw [tokens, steps_cons, tokensOfList, List.append_assoc]
    change (Reader.mk ((pl, items) :: outer) [] (.due .start)).steps p _ = _
    rw [steps_append, steps_tokens ht (Place.takes_start t), Option.bind_some]
    exact steps_tokensOfRest hts

/-- The trees after a comma are read up to the end of their parentheses. -/
theorem steps_tokensOfRest {outer : List (Place × List Tree)} {items : List Tree} {pl : Place} :
    ∀ {ts : List Tree} {done : List Tree} {t : Tree}, AllFit p ts →
      (Reader.mk ((pl, items) :: outer) done (.full t)).steps p (tokensOfRest ts ++ [.closing]) =
        some ⟨outer, items, .full (pl.fill p (group (done ++ t :: ts)))⟩
  | [], done, t, _ => rfl
  | t' :: ts, done, t, h => by
    obtain ⟨ht, hts⟩ := h
    rw [tokensOfRest, List.cons_append, steps_cons]
    change (Reader.mk ((pl, items) :: outer) (done ++ [t]) (.due .start)).steps p _ = _
    rw [List.append_assoc, steps_append, steps_tokens ht (Place.takes_start t'), Option.bind_some]
    rw [steps_tokensOfRest hts, List.append_assoc]
    rfl

end

end Reader

/-! ### What is read fits -/

namespace Place

variable {p : Precedence} {pl : Place}

/-- What stands before a place fits, and can be the left operand there. -/
structure Fits (p : Precedence) (pl : Place) : Prop where
  left {l : Tree} {op : Operator} (h : pl.left? = some (l, op)) : l.Fits p
  and {l : Tree} (h : pl.left? = some (l, .and)) : l.awaitsUpper = false
  upper {l : Tree} (h : pl.left? = some (l, .upper)) : l.awaitsUpper = true

/-- An operand that stands at a place without being in parentheses is no argument. -/
def AppliesTo (pl : Place) (t : Tree) : Prop :=
  ∀ l, pl.left? = some (l, .apply) → (pl.underUnaries t).IsGroup

lemma fits_start : start.Fits p where
  left h := by cases h
  and h := by cases h
  upper h := by cases h

lemma Fits.add (h : pl.Fits p) (q : Unary) : (pl.add q).Fits p where
  left hl := h.left hl
  and hl := h.and hl
  upper hl := h.upper hl

/-- An operand without operators of its own. -/
structure Atomic (p : Precedence) (t : Tree) : Prop where
  fits : t.Fits p
  above (level : Nat) : t.Above p level

lemma fits_underUnaries {t : Tree} (ht : Atomic p t) :
    Atomic p (pl.underUnaries t) := by
  rw [underUnaries]
  induction pl.unaries with
  | nil => exact ht
  | cons q qs ih =>
    exact
      { fits := ⟨ih.fits, ih.above q.level⟩
        above := fun level => ih.above level }

/-- A fitting place is filled to a fitting tree. -/
lemma Fits.fill (h : pl.Fits p) {t : Tree} (ht : Atomic p t) (happly : pl.AppliesTo t) :
    (pl.fill p t).Fits p := by
  have hunaries : Atomic p (pl.underUnaries t) := fits_underUnaries ht
  rw [Place.fill]
  split
  next => exact hunaries.fits
  next l op hl =>
    refine (h.left hl).insert ?_
    exact
      { fits := hunaries.fits
        above := hunaries.above _
        and := fun hop => h.and (hop ▸ hl)
        upper := fun hop => h.upper (hop ▸ hl)
        apply := fun hop => happly l (hop ▸ hl) }

end Place

/-- What has been read fits. -/
def Progress.Fits (p : Precedence) : Progress → Prop
  | due pl => pl.Fits p ∧ ∀ t, pl.AppliesTo t
  | full t => t.Fits p
  | negated t => t.Fits p

namespace Reader

variable {p : Precedence} {r r' : Reader}

/-- All that has been read fits, and the parentheses that are open can stand at their places. -/
structure Fits (p : Precedence) (r : Reader) : Prop where
  outer {pl : Place} {ts : List Tree} (h : (pl, ts) ∈ r.outer) :
    pl.Fits p ∧ (∀ us, pl.AppliesTo (group us)) ∧ AllFit p ts
  items : AllFit p r.items
  progress : r.progress.Fits p

lemma allFit_append_singleton {ts : List Tree} {t : Tree} (hts : AllFit p ts) (ht : t.Fits p) :
    AllFit p (ts ++ [t]) := by
  rw [allFit_iff] at hts ⊢
  rw [List.forall_mem_append]
  exact ⟨hts, fun u hu => List.mem_singleton.mp hu ▸ ht⟩

lemma progress_start_fits : (Progress.due .start).Fits p :=
  ⟨Place.fits_start, fun _ _ hl => by cases hl⟩

lemma fits_start : start.Fits p where
  outer h := by cases h
  items := trivial
  progress := progress_start_fits

lemma Fits.enter (h : r.Fits p) {pl : Place} (hpl : pl.Fits p)
    (happly : ∀ us, pl.AppliesTo (group us)) : (r.enter pl).Fits p where
  outer hmem := by
    rcases List.mem_cons.mp hmem with heq | hmem
    · cases heq
      exact ⟨hpl, happly, h.items⟩
    · exact h.outer hmem
  items := trivial
  progress := progress_start_fits

lemma Fits.leave (h : r.Fits p) {ts : List Tree} (hts : AllFit p ts)
    (hleave : r.leave p ts = some r') : r'.Fits p := by
  rw [Reader.leave] at hleave
  split at hleave
  next => cases hleave
  next pl items outer houter =>
    cases hleave
    have hmem : (pl, items) ∈ r.outer := houter ▸ List.mem_cons_self
    obtain ⟨hpl, happly, hitems⟩ := h.outer hmem
    exact
      { outer := fun hmem => h.outer (houter ▸ List.mem_cons_of_mem _ hmem)
        items := hitems
        progress := hpl.fill ⟨hts, fun _ => trivial⟩ (happly ts) }

lemma Fits.withProgress (h : r.Fits p) {progress : Progress} (hprogress : progress.Fits p) :
    Reader.Fits p { r with progress } where
  outer hmem := h.outer hmem
  items := h.items
  progress := hprogress

/-- An operator after a tree, with the tree on its left. -/
lemma fits_rightOf {op : Operator} {t : Tree} (ht : t.Fits p)
    (hand : op = .and → t.awaitsUpper = false) (hupper : op = .upper → t.awaitsUpper = true) :
    (Place.rightOf t op).Fits p where
  left hl := by
    cases hl
    exact ht
  and hl := by
    cases hl
    exact hand rfl
  upper hl := by
    cases hl
    exact hupper rfl

/-- An operator is read after a tree only where the tree can be its left operand. -/
lemma ofToken?_spec {t : Tree} {token : Token} {op : Operator}
    (h : Operator.ofToken? t token = some op) :
    (op = .and → t.awaitsUpper = false) ∧ (op = .upper → t.awaitsUpper = true) ∧
      op ≠ .apply := by
  rw [Operator.ofToken?.eq_def] at h
  split at h <;> cases h
  case h_3 => cases t.awaitsUpper <;> simp
  all_goals simp

lemma ofNegated?_spec {token : Token} {op : Operator} (h : Operator.ofNegated? token = some op) :
    op ≠ .and ∧ op ≠ .upper ∧ op ≠ .apply := by
  rw [Operator.ofNegated?.eq_def] at h
  split at h <;> cases h <;> simp

lemma atomic_of_token {token : Token} {t : Tree} (h : Tree.ofToken? token = some t) :
    Place.Atomic p t := by
  rw [Tree.ofToken?.eq_def] at h
  split at h
  · split at h <;> cases h
    next hs => exact ⟨hs, fun _ => trivial⟩
  · cases h
    exact ⟨trivial, fun _ => trivial⟩
  · cases h
    exact ⟨trivial, fun _ => trivial⟩
  · cases h

/-- A token where an operand is due leaves a fitting reader. -/
lemma Fits.stepDue (h : r.Fits p) {pl : Place} (hpl : (Progress.due pl).Fits p) {token : Token}
    (hstep : r.stepDue p pl token = some r') : r'.Fits p := by
  obtain ⟨hfits, happly⟩ := hpl
  rw [Reader.stepDue.eq_def] at hstep
  -- a parenthesis opens, one closes on nothing, or a sign or a value is read
  split at hstep
  · cases hstep
    exact h.enter hfits fun us => happly (group us)
  · split at hstep
    · have hnone : AllFit p [] := trivial
      exact h.leave hnone hstep
    · cases hstep
  · split at hstep
    next q _ =>
      cases hstep
      refine h.withProgress ⟨hfits.add q, fun t l hl => ?_⟩
      have hunary := happly (unary q t) l hl
      simpa only [Place.underUnaries, Place.add, List.foldr_append, List.foldr_cons,
        List.foldr_nil] using hunary
    next =>
      obtain ⟨t, ht, rfl⟩ := Option.map_eq_some_iff.mp hstep
      exact h.withProgress (hfits.fill (atomic_of_token ht) (happly t))

/-- A token after a fitting tree leaves a fitting reader. -/
lemma Fits.stepFull (h : r.Fits p) {t : Tree} (ht : t.Fits p) {token : Token}
    (hstep : r.stepFull p t token = some r') : r'.Fits p := by
  rw [Reader.stepFull.eq_def] at hstep
  -- a call, the end of a group, a comma, `NOT` behind an operand, or an operator
  split at hstep
  · cases hstep
    refine h.enter (fits_rightOf ht (fun hop => ?_) fun hop => ?_) fun us l _ => trivial
    · cases hop
    · cases hop
  · exact h.leave (allFit_append_singleton h.items ht) hstep
  · split at hstep
    · cases hstep
    · cases hstep
      exact
        { outer := h.outer
          items := allFit_append_singleton h.items ht
          progress := progress_start_fits }
  · cases hstep
    exact h.withProgress ht
  · obtain ⟨op, hop, rfl⟩ := Option.map_eq_some_iff.mp hstep
    obtain ⟨hand, hupper, happly⟩ := ofToken?_spec hop
    refine h.withProgress ⟨fits_rightOf ht hand hupper, fun _ l hl => ?_⟩
    cases hl
    exact absurd rfl happly

/-- A token leaves a fitting reader. -/
lemma Fits.step (h : r.Fits p) {token : Token} (hstep : r.step p token = some r') :
    r'.Fits p := by
  have hprogress := h.progress
  rw [Reader.step] at hstep
  cases hr : r.progress with
  | due pl =>
    rw [hr] at hstep hprogress
    exact h.stepDue hprogress hstep
  | full t =>
    rw [hr] at hstep hprogress
    exact h.stepFull hprogress hstep
  | negated t =>
    rw [hr] at hstep hprogress
    obtain ⟨op, hop, rfl⟩ := Option.map_eq_some_iff.mp hstep
    obtain ⟨hand, hupper, happly⟩ := ofNegated?_spec hop
    refine h.withProgress ⟨fits_rightOf hprogress (absurd · hand) (absurd · hupper),
      fun _ l hl => ?_⟩
    cases hl
    exact absurd rfl happly

/-- Tokens leave a fitting reader. -/
lemma Fits.steps {tokens : List Token} (h : r.Fits p) (hsteps : r.steps p tokens = some r') :
    r'.Fits p := by
  induction tokens generalizing r with
  | nil =>
    cases hsteps
    exact h
  | cons token tokens ih =>
    rw [steps_cons] at hsteps
    obtain ⟨r'', hstep, hrest⟩ := Option.bind_eq_some_iff.mp hsteps
    exact ih (h.step hstep) hrest

end Reader

/-- Whatever is read fits. -/
theorem fits_of_read {p : Precedence} {tokens : List Token} {t : Tree}
    (h : read p tokens = some t) : t.Fits p := by
  obtain ⟨r, hsteps, hresult⟩ := Option.bind_eq_some_iff.mp h
  have hfits := (Reader.fits_start (p := p)).steps hsteps
  have hprogress := hfits.progress
  rw [Reader.result?] at hresult
  split at hresult
  next hfull =>
    cases hresult
    rw [hfull] at hprogress
    exact hprogress
  next => cases hresult

/-- **Reading.** The tokens of a tree are read as the tree itself if and only if it fits. -/
theorem read_tokens_iff {p : Precedence} {t : Tree} : read p t.tokens = some t ↔ t.Fits p := by
  constructor
  · exact fits_of_read
  · intro h
    rw [read, Reader.start, Reader.steps_tokens h (Place.takes_start t)]
    rfl

end Polysql

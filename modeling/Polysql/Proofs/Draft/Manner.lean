import Mathlib.Tactic.Lemma
import Polysql.Draft.Name
/-!
The manner of a draft says where it may bind values and end statements. Values are bound outside of
blocks, definitions and embedded texts only, and statements end inside of blocks only
(`Piece.Follows`). What is joined from drafts of one manner is a draft of that manner, so that the
manner of a draft follows from the place it is made for (`Scope.manner`).
-/

namespace Polysql

/-! ### Pieces -/

/-- What pieces a draft consists of besides texts and names. -/
inductive Manner where
  /-- Values may be bound. -/
  | bound
  /-- All values are written out. -/
  | written
  /-- All values are written out, and statements may end. -/
  | procedural
deriving DecidableEq

mutual

/-- No value is bound in a piece. -/
def Piece.isClosed : Piece → Bool
  | .parameter _ => false
  | .embedded _ body => allClosed body
  | _ => true

/-- No value is bound in a list of pieces. -/
def allClosed : List Piece → Bool
  | [] => true
  | p :: ps => p.isClosed && allClosed ps

end

lemma allClosed_iff {ps : List Piece} : allClosed ps ↔ ∀ p ∈ ps, p.isClosed := by
  induction ps with
  | nil => simp [allClosed]
  | cons p ps ih => simp [allClosed, ih]

/-- The piece can stand in a draft of a manner. What is embedded binds nothing. -/
def Piece.Follows (m : Manner) : Piece → Prop
  | .parameter _ => m = .bound
  | .terminator => m = .procedural
  | .embedded _ body => allClosed body
  | _ => True

lemma Piece.Follows.of_written {p : Piece} (h : p.Follows .written) (m : Manner) :
    p.Follows m := by
  cases p <;> simp_all [Follows]

/-- Values are bound in drafts of the manner `bound` only. -/
lemma Piece.Follows.isClosed {m : Manner} (hm : m ≠ .bound) {p : Piece} (h : p.Follows m) :
    p.isClosed := by
  cases p <;> simp_all [Follows, Piece.isClosed]

/-! ### Drafts -/

namespace Draft

/-- All pieces of a draft follow a manner, also if it is cut short. -/
def Follows (m : Manner) (d : Draft) : Prop :=
  ∀ p ∈ d.pieces, p.Follows m

lemma Follows.of_written {d : Draft} (h : d.Follows .written) (m : Manner) : d.Follows m :=
  fun p hp => (h p hp).of_written m

/-- What is written out binds nothing. -/
lemma Follows.allClosed {m : Manner} (hm : m ≠ .bound) {d : Draft} (h : d.Follows m) :
    Polysql.allClosed d.pieces :=
  allClosed_iff.mpr fun p hp => (h p hp).isClosed hm

section

variable {m : Manner}

@[simp] lemma follows_empty : empty.Follows m := by simp [Follows, empty]

@[simp] lemma follows_text (t : String) : (text t).Follows m := by
  simp [Follows, text, ofPiece, Piece.Follows]

@[simp] lemma follows_fail (e : Error) : (fail e).Follows m := by simp [Follows, fail]

@[simp] lemma follows_ofPiece (p : Piece) : (ofPiece p).Follows m ↔ p.Follows m := by
  simp [Follows, ofPiece]

@[simp] lemma follows_name (p : NamePart) : (ofPiece (.name p)).Follows m := by
  simp [Piece.Follows]

/-- A draft goes on only after one without an error. -/
@[simp] lemma follows_append (a b : Draft) :
    (a ++ b).Follows m ↔ a.Follows m ∧ (a.error? = none → b.Follows m) := by
  obtain ⟨ps, _ | e⟩ := a
  · change (∀ p ∈ ps ++ b.pieces, p.Follows m) ↔ _
    simp [Follows, or_imp, forall_and]
  · change (∀ p ∈ ps, p.Follows m) ↔ _
    simp [Follows]

@[simp] lemma follows_ite (b : Prop) [Decidable b] (d e : Draft) :
    (if b then d else e).Follows m ↔ (b → d.Follows m) ∧ (¬b → e.Follows m) := by
  split <;> simp_all

@[simp] lemma follows_onlyIf (b : Bool) (d : Draft) :
    (onlyIf b d).Follows m ↔ (b = true → d.Follows m) := by
  cases b <;> simp [onlyIf]

@[simp] lemma follows_ofOption {α : Type} (draft : α → Draft) (a? : Option α) :
    (ofOption draft a?).Follows m ↔ ∀ a, a? = some a → (draft a).Follows m := by
  cases a? <;> simp [ofOption]

@[simp] lemma follows_bind {α : Type} (result : Except Error α) (draft : α → Draft) :
    (bind result draft).Follows m ↔ ∀ a, result = .ok a → (draft a).Follows m := by
  cases result <;> simp [bind]

@[simp] lemma follows_ofText (result : Except Error String) : (ofText result).Follows m := by
  simp [ofText]

@[simp] lemma follows_ofLiteral (c : Constant) (result : Except Error String) :
    (ofLiteral c result).Follows m := by
  simp [ofLiteral, Piece.Follows]

@[simp] lemma follows_number (n : Nat) : (number n).Follows m := by simp [number]

/-- What is written out can be embedded anywhere. -/
lemma follows_embed {n : Manner} (hn : n ≠ .bound) (wrapping : Wrapping) {d : Draft}
    (h : d.Follows n) : (embed wrapping d).Follows m := by
  simpa [Follows, embed, Piece.Follows] using h.allClosed hn

/-! ### Lists of drafts -/

lemma follows_separated (separator : String) {ds : List Draft} (h : ∀ d ∈ ds, d.Follows m) :
    (separated separator ds).Follows m := by
  induction ds with
  | nil => simp [separated]
  | cons d ds ih =>
    obtain ⟨hd, hds⟩ := List.forall_mem_cons.mp h
    cases ds with
    | nil => simpa [separated] using hd
    | cons d' ds => simp [separated, hd, ih hds]

lemma follows_separated_map {α : Type} (separator : String) (draft : α → Draft) {l : List α}
    (h : ∀ a ∈ l, (draft a).Follows m) : (separated separator (l.map draft)).Follows m :=
  follows_separated separator (List.forall_mem_map.mpr h)

lemma follows_commas_map {α : Type} (draft : α → Draft) {l : List α}
    (h : ∀ a ∈ l, (draft a).Follows m) : (commas (l.map draft)).Follows m :=
  follows_separated_map ", " draft h

lemma follows_concat_map {α : Type} (draft : α → Draft) {l : List α}
    (h : ∀ a ∈ l, (draft a).Follows m) : (concat (l.map draft)).Follows m := by
  induction l with
  | nil => simp [concat]
  | cons a l ih =>
    obtain ⟨ha, hl⟩ := List.forall_mem_cons.mp h
    change (draft a ++ concat (l.map draft)).Follows m
    simp [ha, ih hl]

/-! ### Names -/

@[simp] lemma follows_qualified (n : Name) : (qualified n).Follows m :=
  follows_separated_map "." _ fun p _ => follows_name p

@[simp] lemma follows_unqualified (n : Name) : (unqualified n).Follows m := by
  simp [unqualified, Piece.Follows]

@[simp] lemma follows_column (s : Scope) (n : Name) : (column s n).Follows m := by
  simp [column]

@[simp] lemma follows_unqualifiedNames (ns : List Name) : (unqualifiedNames ns).Follows m :=
  follows_commas_map unqualified fun n _ => follows_unqualified n

end

end Draft

/-! ### Places -/

namespace Scope

/-- The manner of what is drafted for a place. -/
def manner (s : Scope) : Manner :=
  if s.inline then .written else .bound

@[simp] lemma manner_inQuery (s : Scope) : s.inQuery.manner = s.manner := rfl

@[simp] lemma manner_inText (s : Scope) : s.inText.manner = .written := rfl

section

variable {m : Manner} (s : Scope)

@[simp] lemma follows_refuse (feature : String) : (s.refuse feature).Follows m :=
  Draft.follows_fail _

@[simp] lemma follows_clause (keyword : String) : (s.clause keyword).Follows m := by
  simp [clause, Piece.Follows]

end

end Scope

namespace Draft

/-- What a statement is drafted as: it binds values where they are not written out, unless it ends
statements. -/
def FollowsAsStatement (s : Scope) (d : Draft) : Prop :=
  d.Follows .procedural ∨ s.inline = false ∧ d.Follows .bound

lemma Follows.asStatement {s : Scope} {d : Draft} (h : d.Follows s.manner) :
    d.FollowsAsStatement s := by
  cases hs : s.inline with
  | false => exact .inr ⟨hs, by simpa [Scope.manner, hs] using h⟩
  | true => exact .inl (Follows.of_written (by simpa [Scope.manner, hs] using h) _)

/-- A statement binds nothing where values are written out. -/
lemma FollowsAsStatement.procedural {s : Scope} {d : Draft} (h : d.FollowsAsStatement s)
    (hs : s.inline = true) : d.Follows .procedural :=
  h.resolve_right fun hbound => by simp [hs] at hbound

end Draft

/-- The writers draft every part in the manner of its place. -/
structure Writers.Settled (w : Writers) : Prop where
  expr (s : Scope) (e : Expr) : (w.expr s e).Follows s.manner
  call (s : Scope) (c : Call) : (w.call s c).Follows s.manner
  condition (s : Scope) (c : Condition) : (w.condition s c).Follows s.manner
  select (s : Scope) (q : Select) : (w.select s q).Follows s.manner
  table (s : Scope) (t : Table) : (w.table s t).Follows s.manner
  statement (s : Scope) (stmt : Statement) : (w.statement s stmt).FollowsAsStatement s

namespace Writers.Settled

variable {w : Writers} (hw : w.Settled) (s : Scope)
include hw

lemma exprs (es : List Expr) : (w.exprs s es).Follows s.manner :=
  Draft.follows_commas_map _ fun e _ => hw.expr s e

lemma row (r : Row) : (w.row s r).Follows s.manner := by
  simp [Writers.row, hw.exprs]

lemma subquery (q : Select) : (w.subquery s q).Follows s.manner := by
  simpa [Writers.subquery] using fun _ => hw.select s.inQuery q

end Writers.Settled

end Polysql

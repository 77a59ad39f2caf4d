import Polysql.Draft.Select
import Polysql.Proofs.Rank.Query
/-!
Parts at another place. A part can be moved into a block or out of one, and to a place where values
are written out (`Move`). Its draft is then the draft at the old place, with the bound values
written out if the move asks for it: that is what `Writers.Moves` says of the writers of two levels,
for the parts up to some rank. A move of drafts goes through all ways of putting drafts together.
-/

namespace Polysql

/-! ### Values that are written out -/

/-- A bound value as a literal; any other piece as it is. -/
def Piece.writtenOut (d : Dialect) : Piece → Draft
  | .parameter c => .ofLiteral c (d.literal c.type c.value)
  | p => .ofPiece p

namespace Draft

/-- A draft whose bound values are written out. It ends at the first one without a literal. -/
def writtenOut (d : Dialect) (a : Draft) : Draft :=
  concat (a.pieces.map (Piece.writtenOut d)) ++ ⟨[], a.error?⟩

section

variable (d : Dialect)

lemma concat_append (as bs : List Draft) : concat (as ++ bs) = concat as ++ concat bs := by
  induction as with
  | nil => rfl
  | cons a as ih =>
    change a ++ concat (as ++ bs) = a ++ concat as ++ concat bs
    rw [ih, append_assoc]

lemma writtenOut_append (a b : Draft) :
    (a ++ b).writtenOut d = a.writtenOut d ++ b.writtenOut d := by
  obtain ⟨ps, _ | e⟩ := a
  · change concat ((ps ++ b.pieces).map (Piece.writtenOut d)) ++ ⟨[], b.error?⟩ =
      concat (ps.map (Piece.writtenOut d)) ++ empty ++ b.writtenOut d
    rw [List.map_append, concat_append, append_assoc, append_empty, writtenOut]
  · -- nothing comes after an error, with the values written out or not
    change writtenOut d ⟨ps, some e⟩ = concat (ps.map (Piece.writtenOut d)) ++ fail e ++ _
    rw [append_assoc, append_of_failed (a := fail e) rfl]
    rfl

lemma writtenOut_ofPiece (p : Piece) : (ofPiece p).writtenOut d = p.writtenOut d := by
  change concat [p.writtenOut d] ++ empty = _
  rw [append_empty]
  exact append_empty _

end

end Draft

/-! ### Moves -/

/-- A move to another place. -/
structure Move where
  /-- Values are written out at the new place, whether or not they were before. -/
  writesOut : Bool
  /-- A block encloses the new place. If nothing is said, it is as before. -/
  inBlock? : Option Bool

namespace Move

/-- The new place. -/
def scope (m : Move) (s : Scope) : Scope :=
  { s with inline := s.inline || m.writesOut, inBlock := m.inBlock?.getD s.inBlock }

/-- A draft at the new place. -/
def draft (m : Move) (d : Dialect) (a : Draft) : Draft :=
  if m.writesOut then a.writtenOut d else a

variable (m : Move)

section

variable (s : Scope)

-- By cases and not by `rfl` alone, so that `simp` rewrites what a decision depends on along with
-- the decision.

@[simp] lemma scope_target : (m.scope s).target = s.target := by cases s; rfl

@[simp] lemma scope_depth : (m.scope s).depth = s.depth := by cases s; rfl

@[simp] lemma scope_qualify : (m.scope s).qualify = s.qualify := by cases s; rfl

@[simp] lemma scope_declareTables : (m.scope s).declareTables = s.declareTables := by cases s; rfl

@[simp] lemma scope_declareFields : (m.scope s).declareFields = s.declareFields := by cases s; rfl

@[simp] lemma scope_junction : (m.scope s).junction? = s.junction? := by cases s; rfl

@[simp] lemma scope_absorbs : (m.scope s).absorbs = s.absorbs := by cases s; rfl

@[simp] lemma scope_dialect : (m.scope s).dialect = s.dialect := by cases s; rfl

@[simp] lemma scope_family : (m.scope s).family = s.family := by cases s; rfl

@[simp] lemma scope_has (feature : DialectSet) : (m.scope s).has feature = s.has feature := by
  cases s; rfl

@[simp] lemma scope_refuse (feature : String) :
    (m.scope s).refuse feature = s.refuse feature := by
  cases s; rfl

@[simp] lemma scope_clause (keyword : String) :
    (m.scope s).clause keyword = s.clause keyword := by
  cases s; rfl

end

/-! ### Drafts at the new place -/

section

variable (d : Dialect)

@[simp] lemma draft_append (a b : Draft) : m.draft d (a ++ b) = m.draft d a ++ m.draft d b := by
  rw [draft, draft, draft]
  split
  · exact Draft.writtenOut_append d a b
  · rfl

@[simp] lemma draft_empty : m.draft d .empty = .empty := by
  rw [draft]
  split <;> rfl

@[simp] lemma draft_text (t : String) : m.draft d (.text t) = .text t := by
  rw [draft]
  split
  · exact Draft.writtenOut_ofPiece d (.text t)
  · rfl

@[simp] lemma draft_fail (e : Error) : m.draft d (.fail e) = .fail e := by
  rw [draft]
  split <;> rfl

@[simp] lemma draft_name (p : NamePart) :
    m.draft d (.ofPiece (.name p)) = .ofPiece (.name p) := by
  rw [draft]
  split
  · exact Draft.writtenOut_ofPiece d (.name p)
  · rfl

/-- Text that is embedded stays as it is, for it binds nothing. -/
@[simp] lemma draft_embed (wrapping : Wrapping) (a : Draft) :
    m.draft d (.embed wrapping a) = .embed wrapping a := by
  rw [draft]
  split <;> rfl

@[simp] lemma draft_ite (p : Prop) [Decidable p] (a b : Draft) :
    m.draft d (if p then a else b) = if p then m.draft d a else m.draft d b :=
  apply_ite _ _ _ _

@[simp] lemma draft_onlyIf (b : Bool) (a : Draft) :
    m.draft d (.onlyIf b a) = .onlyIf b (m.draft d a) := by
  cases b <;> simp [Draft.onlyIf]

@[simp] lemma draft_number (n : Nat) : m.draft d (.number n) = .number n := m.draft_text d _

@[simp] lemma draft_ofText (result : Except Error String) :
    m.draft d (.ofText result) = .ofText result := by
  cases result with
  | error e => exact m.draft_fail d e
  | ok t => exact m.draft_text d t

@[simp] lemma draft_clause (s : Scope) (keyword : String) :
    m.draft d (s.clause keyword) = s.clause keyword := by
  have hstart : m.draft d (.ofPiece (.clause s.depth)) = .ofPiece (.clause s.depth) := by
    rw [draft]
    split
    · exact Draft.writtenOut_ofPiece d (.clause s.depth)
    · rfl
  rw [Scope.clause, draft_append, hstart, draft_text]

@[simp] lemma draft_refuse (s : Scope) (feature : String) :
    m.draft d (s.refuse feature) = s.refuse feature :=
  m.draft_fail d _

variable {m d}

lemma draft_ofOption {α : Type} {f g : α → Draft} {a? : Option α}
    (h : ∀ a, a? = some a → m.draft d (f a) = g a) :
    m.draft d (.ofOption f a?) = .ofOption g a? := by
  cases a? with
  | none => exact m.draft_empty d
  | some a => exact h a rfl

lemma draft_bind {α : Type} {f g : α → Draft} {result : Except Error α}
    (h : ∀ a, result = .ok a → m.draft d (f a) = g a) :
    m.draft d (.bind result f) = .bind result g := by
  cases result with
  | error e => exact m.draft_fail d e
  | ok a => exact h a rfl

variable {α : Type} {f g : α → Draft}

lemma draft_separated_map (separator : String) {as : List α}
    (h : ∀ a ∈ as, m.draft d (f a) = g a) :
    m.draft d (.separated separator (as.map f)) = .separated separator (as.map g) := by
  induction as with
  | nil => exact m.draft_empty d
  | cons a as ih =>
    obtain ⟨ha, has⟩ := List.forall_mem_cons.mp h
    cases as with
    | nil => exact ha
    | cons b as =>
      have ih := ih has
      simp only [List.map_cons, Draft.separated, draft_append, draft_text, ha] at ih ⊢
      rw [ih]

lemma draft_commas_map {as : List α} (h : ∀ a ∈ as, m.draft d (f a) = g a) :
    m.draft d (.commas (as.map f)) = .commas (as.map g) :=
  draft_separated_map ", " h

lemma draft_commas_same (h : ∀ a, m.draft d (f a) = f a) (as : List α) :
    m.draft d (.commas (as.map f)) = .commas (as.map f) :=
  draft_commas_map fun a _ => h a

lemma draft_commas (as : List Draft) :
    m.draft d (.commas as) = .commas (as.map (m.draft d)) := by
  have : m.draft d (.commas (as.map fun a => a)) = .commas (as.map (m.draft d)) :=
    draft_commas_map fun _ _ => rfl
  rwa [List.map_id'] at this

lemma draft_concat_map {as : List α} (h : ∀ a ∈ as, m.draft d (f a) = g a) :
    m.draft d (.concat (as.map f)) = .concat (as.map g) := by
  induction as with
  | nil => exact m.draft_empty d
  | cons a as ih =>
    obtain ⟨ha, has⟩ := List.forall_mem_cons.mp h
    change m.draft d (f a ++ .concat (as.map f)) = g a ++ .concat (as.map g)
    rw [draft_append, ha, ih has]

end

/-! ### Names -/

section

variable (d : Dialect)

@[simp] lemma draft_qualified (n : Name) : m.draft d (.qualified n) = .qualified n :=
  draft_separated_map "." fun p _ => m.draft_name d p

@[simp] lemma draft_unqualified (n : Name) : m.draft d (.unqualified n) = .unqualified n :=
  draft_ofOption fun p _ => m.draft_name d p

@[simp] lemma draft_unqualifiedNames (ns : List Name) :
    m.draft d (.unqualifiedNames ns) = .unqualifiedNames ns :=
  draft_commas_same (m.draft_unqualified d) ns

@[simp] lemma draft_column (s : Scope) (n : Name) :
    m.draft d (.column s n) = .column (m.scope s) n := by
  simp [Draft.column]

end

/-- A constant is written out at the new place if it is at the old one, or if the move asks for
it. -/
lemma draft_constant (s : Scope) (c : Constant) :
    m.draft s.dialect (.constant s c) = .constant (m.scope s) c := by
  have hliteral : m.draft s.dialect (.ofLiteral c (s.dialect.literal c.type c.value)) =
      .ofLiteral c (s.dialect.literal c.type c.value) := by
    refine draft_bind fun t _ => ?_
    rw [draft]
    split
    · exact Draft.writtenOut_ofPiece _ (.literal c t)
    · rfl
  obtain ⟨writesOut, inBlock?⟩ := m
  simp only [Draft.constant, draft_ite, hliteral, scope_dialect]
  cases writesOut with
  | false => simp [scope, draft]
  | true => simp [scope, draft, Draft.writtenOut_ofPiece, Piece.writtenOut]

end Move

/-! ### Writers -/

/-- The parts up to a rank are drafted by other writers at the new place as they are at the old one,
apart from what the move writes out. -/
structure Writers.Moves (m : Move) (w w' : Writers) (n : Nat) : Prop where
  expr (s : Scope) {e : Expr} (h : e.rank ≤ n) :
    m.draft s.dialect (w.expr s e) = w'.expr (m.scope s) e
  call (s : Scope) {c : Call} (h : c.rank ≤ n) :
    m.draft s.dialect (w.call s c) = w'.call (m.scope s) c
  condition (s : Scope) {c : Condition} (h : c.rank ≤ n) :
    m.draft s.dialect (w.condition s c) = w'.condition (m.scope s) c
  select (s : Scope) {q : Select} (h : q.rank ≤ n) :
    m.draft s.dialect (w.select s q) = w'.select (m.scope s) q
  table (s : Scope) {t : Table} (h : t.rank ≤ n) :
    m.draft s.dialect (w.table s t) = w'.table (m.scope s) t

end Polysql

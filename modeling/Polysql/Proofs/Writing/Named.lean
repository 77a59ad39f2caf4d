import Std.Data.String.ToNat
import Polysql.Proofs.Outcome
import Polysql.Proofs.Writing.Spelling
/-!
Placeholders with names. A value that has been given a name is referred to by it, and any other
value by its position, as `p1`, `p2` and so on, whatever names have been given. So one placeholder
stands for values that have not been given one name exactly if the name of some value is the
numbered name of another one (`Renderer.namesApart_parameters_iff`).
-/

namespace Polysql

/-! ### Names of values -/

/-- The name of the value at a position that has not been given one. -/
def numberedName (position : Nat) : String :=
  "p" ++ Nat.repr position

/-- The name by which the value at a position is referred to. -/
def Parameter.nameAt (p : Parameter) (position : Nat) : String :=
  p.name?.getD (numberedName position)

lemma Parameter.nameAt_of_none {p : Parameter} (h : p.name? = none) (position : Nat) :
    p.nameAt position = numberedName position := by
  rw [nameAt, h, Option.getD_none]

lemma Parameter.nameAt_of_some {p : Parameter} {name : String} (h : p.name? = some name)
    (position : Nat) : p.nameAt position = name := by
  rw [nameAt, h, Option.getD_some]

lemma numberedName_injective : Function.Injective numberedName := fun _ _ h =>
  Nat.repr_injective ((String.append_right_inj "p").mp h)

lemma Dialect.namedPlaceholder_inj (d : Dialect) (p q : Parameter) (n m : Nat) :
    d.namedPlaceholder n p.name? = d.namedPlaceholder m q.name? ↔ p.nameAt n = q.nameAt m :=
  String.append_right_inj d.placeholderMark

/-- No value is referred to by a placeholder that means another one: values with one placeholder
have been given one name, and a numbered name is not that of any other value. The values are
numbered from 1. -/
structure Dialect.NamesApart (d : Dialect) (ps : List Parameter) : Prop where
  given {i j : Nat} {p q : Parameter} (hp : ps[i]? = some p) (hq : ps[j]? = some q) (hij : i ≠ j)
    (h : d.namedPlaceholder (i + 1) p.name? = d.namedPlaceholder (j + 1) q.name?) :
    ∃ name, p.name? = some name ∧ q.name? = some name
  numbered {i j : Nat} {p q : Parameter} (hp : ps[i]? = some p) (hq : ps[j]? = some q) (hij : i ≠ j)
    (h : p.name? = none) : q.nameAt (j + 1) ≠ numberedName (i + 1)

/-- Among the names that some values have been given, there is no numbered name of a value that has
been given none. -/
def FreeOfNumbered (names : List (Option String)) : Prop :=
  ∀ i : Nat, names[i]? = some none → some (numberedName (i + 1)) ∉ names

section

variable {ps : List Parameter} {i j : Nat} {p q : Parameter}

/-- The numbered name of a value is not that of any other value. -/
lemma nameAt_ne_numberedName (h : FreeOfNumbered (ps.map Parameter.name?)) (hp : ps[i]? = some p)
    (hq : ps[j]? = some q) (hij : i ≠ j) (hnone : p.name? = none) :
    q.nameAt (j + 1) ≠ numberedName (i + 1) := by
  rw [Parameter.nameAt]
  cases hname : q.name? with
  | none => exact fun heq => hij (Nat.succ.inj (numberedName_injective heq)).symm
  | some name =>
    rintro rfl
    refine h i (by rw [List.getElem?_map, hp, Option.map_some, hnone]) ?_
    exact List.mem_map.mpr ⟨q, List.mem_of_getElem? hq, hname⟩

/-- Values with one name have been given it. -/
lemma exists_name_of_nameAt_eq (h : FreeOfNumbered (ps.map Parameter.name?))
    (hp : ps[i]? = some p) (hq : ps[j]? = some q) (hij : i ≠ j)
    (heq : p.nameAt (i + 1) = q.nameAt (j + 1)) :
    ∃ name, p.name? = some name ∧ q.name? = some name := by
  cases hname : p.name? with
  | none =>
    rw [Parameter.nameAt_of_none hname] at heq
    exact absurd heq.symm (nameAt_ne_numberedName h hp hq hij hname)
  | some name =>
    cases hname' : q.name? with
    | none =>
      rw [Parameter.nameAt_of_none hname'] at heq
      exact absurd heq (nameAt_ne_numberedName h hq hp hij.symm hname')
    | some name' =>
      rw [Parameter.nameAt_of_some hname, Parameter.nameAt_of_some hname'] at heq
      exact ⟨name, rfl, congrArg some heq.symm⟩

/-- Placeholders keep values apart if and only if no value has been given the numbered name of
another one. -/
lemma Dialect.namesApart_iff (d : Dialect) :
    d.NamesApart ps ↔ FreeOfNumbered (ps.map Parameter.name?) := by
  constructor
  · intro h i hi hmem
    obtain ⟨p, hp, hnone⟩ := Option.map_eq_some_iff.mp (List.getElem?_map.symm.trans hi)
    obtain ⟨q, hq, hname⟩ := List.mem_map.mp hmem
    obtain ⟨j, hq⟩ := List.getElem?_of_mem hq
    -- the name that is given stands at another place than the one that is made up
    have hij : i ≠ j := by
      rintro rfl
      rw [hp] at hq
      cases hq
      rw [hnone] at hname
      cases hname
    exact h.numbered hp hq hij hnone (Parameter.nameAt_of_some hname _)
  · intro h
    exact {
      given := fun hp hq hij heq =>
        exists_name_of_nameAt_eq h hp hq hij ((d.namedPlaceholder_inj ..).mp heq)
      numbered := fun hp hq hij hnone => nameAt_ne_numberedName h hp hq hij hnone }

end

/-! ### Values in a text -/

/-- A statement has a template for all its placeholders. -/
lemma Renderer.exists_template (r : Renderer) (stmt : Statement) :
    ∃ (t : Template) (error? : Option Error),
      ∀ {form : ParameterStyle} {mark : Nat → Parameter → String},
        (r.style.spelling form).Binds mark → ∀ bound, (r.spelling form).write bound stmt =
          ⟨t.fill (t.marks mark bound.length), bound ++ t.values, error?⟩ := by
  cases hexec : stmt.isExecutable with
  | false =>
    refine ⟨.fixed "", none, fun _ bound => ?_⟩
    rw [write, hexec]
    simp [Written.start]
  | true =>
    have hmanner : (Draft.ofStatement r.target stmt).FollowsAsStatement { target := r.target } :=
      (Writers.level_settled stmt.rank).statement _ stmt
    obtain ⟨t, ht, -⟩ := Style.exists_template (hmanner.imp id And.right)
    refine ⟨t, (Draft.ofStatement r.target stmt).error?, fun hmark bound => ?_⟩
    rw [r.write_spelling_eq _ bound hexec, ht hmark]

/-- **Placeholders with names.** The text of a statement holds the placeholder of each of its
values, in their order. No placeholder means two values that have not been given one name, and no
numbered name is that of another value, if and only if no value has been given the numbered name of
another one. -/
theorem Renderer.namesApart_parameters_iff (r : Renderer) (stmt : Statement) {out : Rendered}
    (h : (r.spelling .named).render stmt = .ok out) :
    ∃ t : Template, t.values = out.parameters ∧
      out.sql = t.fill (t.marks (fun n p => r.dialect.namedPlaceholder n p.name?) 0) ∧
      (r.dialect.NamesApart out.parameters ↔
        FreeOfNumbered (out.parameters.map Parameter.name?)) := by
  obtain ⟨t, error?, ht⟩ := r.exists_template stmt
  have hwrite := ht r.style.binds_named []
  rw [render, hwrite] at h
  cases error? with
  | some e => cases h
  | none =>
    cases h
    exact ⟨t, rfl, rfl, r.dialect.namesApart_iff⟩

/-- A value with a name, and one without. -/
theorem Renderer.namesApart_parameters_iff_second :
    let r : Renderer := { dialect := .oracle12c, settings := { quoting := .never } }
    let id : Condition := .equals (.column (.ofText "id")) (.bindNamed "id" (.ofNat 7))
    let b : Condition := .equals (.column (.ofText "b")) (.bind (.ofNat 2))
    let stmt : Statement := .select
      { fields := [⟨.column (.ofText "a"), none⟩]
        tables := [.ofName (.ofText "t")]
        filter? := some (.and [id, b]) }
    ∃ out, (r.spelling .named).render stmt = .ok out ∧
      out.sql = "SELECT a FROM t WHERE id = :id AND b = :p2" ∧
      r.dialect.NamesApart out.parameters := by
  intro r id b stmt
  have hrendered : ((r.spelling .named).render stmt).map
      (fun out => (out.sql, out.parameters.map Parameter.name?)) =
        .ok ("SELECT a FROM t WHERE id = :id AND b = :p2", [some "id", none]) := by
    decide +kernel
  obtain ⟨out, hout, hout'⟩ := map_eq_ok_iff.mp hrendered
  obtain ⟨hsql, hnames⟩ := Prod.mk.inj hout'
  obtain ⟨-, -, -, hiff⟩ := Renderer.namesApart_parameters_iff r stmt hout
  refine ⟨out, hout, hsql, hiff.mpr ?_⟩
  rw [hnames]
  rintro (_ | _ | i) hi
  · cases hi
  · decide
  · cases hi

/-- A value with the numbered name of the second one. Both have one placeholder. -/
theorem Renderer.namesApart_taken :
    let r : Renderer := { dialect := .oracle12c, settings := { quoting := .never } }
    let id : Condition := .equals (.column (.ofText "id")) (.bindNamed "p2" (.ofNat 7))
    let b : Condition := .equals (.column (.ofText "b")) (.bind (.ofNat 2))
    let stmt : Statement := .select
      { fields := [⟨.column (.ofText "a"), none⟩]
        tables := [.ofName (.ofText "t")]
        filter? := some (.and [id, b]) }
    ∃ out, (r.spelling .named).render stmt = .ok out ∧
      out.sql = "SELECT a FROM t WHERE id = :p2 AND b = :p2" ∧
      out.parameters.map Parameter.name? = [some "p2", none] ∧
      ¬r.dialect.NamesApart out.parameters := by
  intro r id b stmt
  have hrendered : ((r.spelling .named).render stmt).map
      (fun out => (out.sql, out.parameters.map Parameter.name?)) =
        .ok ("SELECT a FROM t WHERE id = :p2 AND b = :p2", [some "p2", none]) := by
    decide +kernel
  obtain ⟨out, hout, hout'⟩ := map_eq_ok_iff.mp hrendered
  obtain ⟨hsql, hnames⟩ := Prod.mk.inj hout'
  refine ⟨out, hout, hsql, hnames, fun h => ?_⟩
  rw [r.dialect.namesApart_iff, hnames] at h
  exact h 1 rfl (by decide)

end Polysql

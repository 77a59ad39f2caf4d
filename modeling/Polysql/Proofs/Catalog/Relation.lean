import Mathlib.Data.List.Basic
import Mathlib.Data.List.Flatten
import Polysql.Proofs.Outcome
import Polysql.Query.KeyJoin
/-!
Joins by a foreign key. A foreign key is declared to relate its table to the one that the catalog
has for the name it refers to, and a join exposes the tables that are not on the right side of a
semi or anti join. A join by a key counts more than the declared relations of exposed tables: it
compares the last parts of names only, and it looks at the tables out of sight as well. So it
resolves the declared relation exactly if it counts nothing in excess (`Join.onKey_resolves_iff`).
-/

namespace Polysql

deriving instance DecidableEq for ColumnInfo, Key, ForeignKey, TableInfo

/-! ### Tables that are exposed -/

namespace Table

/-- The tables of the database that can be reached without entering the right side of a semi or anti
join, from left to right. -/
def exposedTables : Table → List NamedTable
  | .named t => [t]
  | .join ⟨l, r, type, _, _⟩ =>
    if type.isSemiOrAnti then l.exposedTables else l.exposedTables ++ r.exposedTables
  | .lateral t => t.exposedTables
  | _ => []

/-- The other tables of the database that a table is joined from. -/
def hiddenTables : Table → List NamedTable
  | .join ⟨l, r, type, _, _⟩ =>
    l.hiddenTables ++ if type.isSemiOrAnti then r.namedTables else r.hiddenTables
  | .lateral t => t.hiddenTables
  | _ => []

lemma exposedTables_sublist : ∀ t : Table, t.exposedTables.Sublist t.namedTables
  | .named _ => List.Sublist.refl _
  | .join ⟨l, r, type, _, _⟩ => by
    have hl := l.exposedTables_sublist
    have hr := r.exposedTables_sublist
    rw [exposedTables, namedTables]
    split
    · exact hl.trans (List.sublist_append_left _ _)
    · exact hl.append hr
  | .lateral t => by
    rw [exposedTables, namedTables]
    exact t.exposedTables_sublist
  | .derived _ _ | .values _ _ | .unnest _ _ _ | .rowsFrom _ _ | .dual => List.Sublist.refl _

/-- A table of the database is exposed or hidden. -/
lemma namedTables_perm : ∀ t : Table, t.namedTables.Perm (t.exposedTables ++ t.hiddenTables)
  | .named _ => List.Perm.refl _
  | .join ⟨l, r, type, _, _⟩ => by
    have hl := l.namedTables_perm
    have hr := r.namedTables_perm
    rw [exposedTables, hiddenTables, namedTables]
    split
    · rw [← List.append_assoc]
      exact hl.append_right _
    · have hswap : ((l.exposedTables ++ l.hiddenTables) ++ (r.exposedTables ++ r.hiddenTables)).Perm
          ((l.exposedTables ++ r.exposedTables) ++ (l.hiddenTables ++ r.hiddenTables)) := by
        simp only [List.append_assoc]
        exact (List.perm_append_comm_assoc _ _ _).append_left _
      exact (hl.append hr).trans hswap
  | .lateral t => by
    rw [exposedTables, hiddenTables, namedTables]
    exact t.namedTables_perm
  | .derived _ _ | .values _ _ | .unnest _ _ _ | .rowsFrom _ _ | .dual => List.Perm.refl _

end Table

/-! ### Foreign keys between tables -/

/-- A foreign key of a table in a query that refers to another one. -/
structure KeyRelation where
  /-- The table that has the key. -/
  owner : NamedTable
  /-- The table that it refers to. -/
  target : NamedTable
  /-- The key. -/
  key : ForeignKey

namespace KeyRelation

/-- Equality of each column of the key with the one it refers to. -/
def equalities (r : KeyRelation) : List Condition :=
  (r.key.columns.zip r.key.targetColumns).map fun (c, d) =>
    .equals (.column (r.owner.reference ++ Name.ofText c))
      (.column (r.target.reference ++ Name.ofText d))

/-- All columns of the key are equal to those they refer to. -/
def condition (r : KeyRelation) : Condition :=
  .all r.equalities

/-- The name of the key and the condition. -/
def entry (r : KeyRelation) : String × Condition :=
  (r.key.name, r.condition)

end KeyRelation

namespace Catalog

variable (c : Catalog)

/-- The foreign keys of a table that refer to another, in some way of referring. -/
def relations (refers : ForeignKey → TableInfo → Bool) (owner target : NamedTable) :
    List KeyRelation :=
  match c.table? owner.name, c.table? target.name with
  | some o, some t => (o.foreignKeys.filter (refers · t)).map (KeyRelation.mk owner target)
  | _, _ => []

/-- The foreign keys that are declared to relate a table to another: the catalog has the other table
for the name that the key refers to. -/
def declared (owner target : NamedTable) : List KeyRelation :=
  c.relations (fun k t => c.table? k.target = some t) owner target

/-- The foreign keys that are counted for a join: the name that the key refers to has the last part
of that of the table. -/
def counted (owner target : NamedTable) : List KeyRelation :=
  c.relations (fun k t => k.target.sameUnqualified t.name) owner target

/-- What the catalog has for a name is a table with its last part. -/
lemma sameUnqualified_of_table? {c : Catalog} {name : Name} {t : TableInfo}
    (h : c.table? name = some t) : name.sameUnqualified t.name = true := by
  have hfound := List.find?_some h
  rwa [Name.sameUnqualified_comm] at hfound

/-- The declared keys are those counted ones whose name leads to the table. -/
lemma declared_eq_filter (owner target : NamedTable) :
    c.declared owner target =
      (c.counted owner target).filter fun r => c.table? r.key.target = c.table? r.target.name := by
  rw [declared, counted, relations, relations]
  split
  next o t _ ht =>
    rw [List.filter_map, List.filter_filter]
    refine congrArg (List.map _) (List.filter_congr fun k _ => ?_)
    simp only [Function.comp_apply, ht]
    by_cases hk : c.table? k.target = some t
    · simp [hk, sameUnqualified_of_table? hk]
    · simp [hk]
  next => rfl

lemma declared_sublist (owner target : NamedTable) :
    (c.declared owner target).Sublist (c.counted owner target) := by
  rw [declared_eq_filter]
  exact List.filter_sublist

/-- All counted keys are declared if their names lead to the table. -/
lemma declared_eq_counted_iff {owner target : NamedTable} :
    c.declared owner target = c.counted owner target ↔
      ∀ r ∈ c.counted owner target, c.table? r.key.target = c.table? r.target.name := by
  simp only [declared_eq_filter, List.filter_eq_self, decide_eq_true_eq]

/-- A key that refers to its own table is one in both directions. -/
lemma length_relations_comm {t u : NamedTable} (h : c.table? t.name = c.table? u.name)
    (refers : ForeignKey → TableInfo → Bool) :
    (c.relations refers t u).length = (c.relations refers u t).length := by
  rw [relations, relations, h]
  split <;> simp only [List.length_map, List.length_nil]

end Catalog

/-! ### Joins by a key -/

namespace Join

section

variable (catalog : Catalog) (j : Join) (right : NamedTable)

/-- The declared keys of exposed tables that refer to the right table. -/
def forwardKeys : List KeyRelation :=
  j.left.exposedTables.flatMap fun t => catalog.declared t right

/-- The declared keys of the right table that refer to exposed tables. -/
def backwardKeys : List KeyRelation :=
  j.left.exposedTables.flatMap fun t => catalog.declared right t

/-- The result of a join by a key is what the declared relation of its sides asks for: the join on
the only key there is, and otherwise an error that says whether there is none or which there are. -/
structure ResolvesKey (result : Except Error Join) : Prop where
  succeeds : (∃ joined, result = .ok joined) ↔
    (j.forwardKeys catalog right ++ j.backwardKeys catalog right).length = 1
  joined (r : KeyRelation) (h : j.forwardKeys catalog right ++ j.backwardKeys catalog right = [r]) :
    result = .ok (j.onBoth r.condition)
  notFound (h : j.forwardKeys catalog right ++ j.backwardKeys catalog right = []) :
    ∃ left, result = .error (.ofCause (.keyNotFound left right.name))
  ambiguous (h : 2 ≤ (j.forwardKeys catalog right ++ j.backwardKeys catalog right).length) :
    ∃ left, result = .error (.ofCause (.ambiguousKey left right.name
      ((j.forwardKeys catalog right).map fun r => r.key.name)
      ((j.backwardKeys catalog right).map fun r => r.key.name)))

/-- What comes of a join by the keys in both directions. -/
def byKeys (left : Name) (forward backward : List KeyRelation) : Except Error Join :=
  match forward ++ backward with
  | [] => .error (.ofCause (.keyNotFound left right.name))
  | [r] => .ok (j.onBoth r.condition)
  | _ => .error (.ofCause (.ambiguousKey left right.name (forward.map fun r => r.key.name)
      (backward.map fun r => r.key.name)))

end

variable {catalog : Catalog} {j : Join} {right : NamedTable} {left : Name}

/-! #### The result says which keys there are -/

section

variable {forward backward : List KeyRelation}

lemma byKeys_of_nil (h : forward ++ backward = []) :
    j.byKeys right left forward backward = .error (.ofCause (.keyNotFound left right.name)) := by
  rw [byKeys, h]

lemma byKeys_of_singleton {r : KeyRelation} (h : forward ++ backward = [r]) :
    j.byKeys right left forward backward = .ok (j.onBoth r.condition) := by
  rw [byKeys, h]

lemma byKeys_of_two_le (h : 2 ≤ (forward ++ backward).length) :
    j.byKeys right left forward backward = .error (.ofCause (.ambiguousKey left right.name
      (forward.map fun r => r.key.name) (backward.map fun r => r.key.name))) := by
  rw [byKeys]
  split
  next hnil => simp [hnil] at h
  next hone => simp [hone] at h
  next => rfl

lemma eq_nil_of_byKeys {name : Name}
    (h : j.byKeys right left forward backward = .error (.ofCause (.keyNotFound name right.name))) :
    forward ++ backward = [] := by
  rw [byKeys] at h
  split at h
  next hnil => exact hnil
  next => cases h
  next => simp [Error.ofCause] at h

lemma length_eq_one_of_byKeys {joined : Join}
    (h : j.byKeys right left forward backward = .ok joined) :
    (forward ++ backward).length = 1 := by
  rw [byKeys] at h
  split at h
  next => cases h
  next hone => exact congrArg List.length hone
  next => cases h

lemma lengths_of_byKeys {name : Name} {fs bs : List String}
    (h : j.byKeys right left forward backward =
      .error (.ofCause (.ambiguousKey name right.name fs bs))) :
    forward.length = fs.length ∧ backward.length = bs.length := by
  rw [byKeys] at h
  split at h
  next => simp [Error.ofCause] at h
  next => cases h
  next =>
    simp only [Error.ofCause, Except.error.injEq, Error.mk.injEq, Cause.ambiguousKey.injEq] at h
    obtain ⟨⟨-, -, rfl, rfl⟩, -⟩ := h
    simp

/-- The declared keys give the result that the declared relation asks for. -/
lemma resolvesKey_byKeys :
    j.ResolvesKey catalog right
      (j.byKeys right left (j.forwardKeys catalog right) (j.backwardKeys catalog right)) where
  succeeds := by
    constructor
    · rintro ⟨joined, h⟩
      exact length_eq_one_of_byKeys h
    · intro h
      obtain ⟨r, hr⟩ := List.length_eq_one_iff.mp h
      exact ⟨_, byKeys_of_singleton hr⟩
  joined _ h := byKeys_of_singleton h
  notFound h := ⟨left, byKeys_of_nil h⟩
  ambiguous h := ⟨left, byKeys_of_two_le h⟩

/-- No other keys give that result, as long as the declared ones are among them. -/
lemma ResolvesKey.eq_of_sublist (hforward : (j.forwardKeys catalog right).Sublist forward)
    (hbackward : (j.backwardKeys catalog right).Sublist backward)
    (h : j.ResolvesKey catalog right (j.byKeys right left forward backward)) :
    j.forwardKeys catalog right = forward ∧ j.backwardKeys catalog right = backward := by
  have hlf := hforward.length_le
  have hlb := hbackward.length_le
  suffices forward.length ≤ (j.forwardKeys catalog right).length ∧
      backward.length ≤ (j.backwardKeys catalog right).length from
    ⟨hforward.eq_of_length_le this.1, hbackward.eq_of_length_le this.2⟩
  -- none, one or several keys are declared, and each time the result tells how many it comes from
  rcases Nat.lt_trichotomy
    (j.forwardKeys catalog right ++ j.backwardKeys catalog right).length 1 with hnone | hone | hmany
  · obtain ⟨name, hname⟩ := h.notFound (List.length_eq_zero_iff.mp (by omega))
    obtain ⟨rfl, rfl⟩ := List.append_eq_nil_iff.mp (eq_nil_of_byKeys hname)
    exact ⟨Nat.zero_le _, Nat.zero_le _⟩
  · obtain ⟨joined, hjoined⟩ := h.succeeds.mpr hone
    have hkeys := length_eq_one_of_byKeys hjoined
    rw [List.length_append] at hone hkeys
    omega
  · obtain ⟨name, hname⟩ := h.ambiguous hmany
    obtain ⟨hf, hb⟩ := lengths_of_byKeys hname
    rw [List.length_map] at hf hb
    exact ⟨Nat.le_of_eq hf, Nat.le_of_eq hb⟩

end

/-! #### The keys that are counted -/

/-- A table that the catalog does not have is related to none. -/
lemma counted_eq_nil {t u : NamedTable}
    (h : catalog.table? t.name = none ∨ catalog.table? u.name = none) :
    catalog.counted t u = [] := by
  rw [Catalog.counted, Catalog.relations]
  split
  next ht hu => simp [ht, hu] at h
  next => rfl

lemma keysBetween_eq {t u : NamedTable} {i i' : TableInfo} (ht : catalog.table? t.name = some i)
    (hu : catalog.table? u.name = some i') :
    keysBetween (t, i) (u, i') = (catalog.counted t u).map KeyRelation.entry := by
  rw [Catalog.counted, Catalog.relations, ht, hu, List.map_map]
  rfl

/-- What the known tables of a list contribute is what each table contributes, if the others
contribute nothing. -/
lemma flatMap_known (entries : NamedTable × TableInfo → List (String × Condition))
    (keys : NamedTable → List KeyRelation)
    (hknown : ∀ t i, catalog.table? t.name = some i →
      entries (t, i) = (keys t).map KeyRelation.entry)
    (hunknown : ∀ t, catalog.table? t.name = none → keys t = []) :
    ∀ ts : List NamedTable,
      (ts.filterMap fun t => (catalog.table? t.name).map fun i => (t, i)).flatMap entries =
        (ts.flatMap keys).map KeyRelation.entry
  | [] => rfl
  | t :: ts => by
    rw [List.flatMap_cons, List.map_append, ← flatMap_known entries keys hknown hunknown ts]
    cases ht : catalog.table? t.name with
    | none => simp [ht, hunknown t ht]
    | some i => simp [ht, hknown t i ht]

/-- A join by a key counts the keys of all tables of the left side. -/
lemma onKey_eq_byKeys (hright : j.right.namedTables.getLast? = some right) :
    j.onKey catalog =
      j.byKeys right ((j.left.namedTables.getLast?.map NamedTable.name).getD .empty)
        (j.left.namedTables.flatMap fun t => catalog.counted t right)
        (j.left.namedTables.flatMap fun t => catalog.counted right t) := by
  rw [onKey, hright]
  dsimp only
  split
  next hinfo =>
    -- a table that is not known has no keys, and none refers to it
    have hnone (t : NamedTable) : catalog.counted t right = [] ∧ catalog.counted right t = [] :=
      ⟨counted_eq_nil (.inr hinfo), counted_eq_nil (.inl hinfo)⟩
    exact (byKeys_of_nil (by simp [hnone])).symm
  next info hinfo =>
    have hforward := flatMap_known (fun t => keysBetween t (right, info))
      (fun t => catalog.counted t right) (fun _ _ ht => keysBetween_eq ht hinfo)
      (fun _ ht => counted_eq_nil (.inl ht)) j.left.namedTables
    have hbackward := flatMap_known (fun t => keysBetween (right, info) t)
      (fun t => catalog.counted right t) (fun _ _ ht => keysBetween_eq hinfo ht)
      (fun _ ht => counted_eq_nil (.inr ht)) j.left.namedTables
    simp only [hforward, hbackward, ← List.map_append]
    rw [byKeys]
    -- only how many keys there are decides, and which is the first
    generalize (j.left.namedTables.flatMap fun t => catalog.counted t right) = forward
    generalize (j.left.namedTables.flatMap fun t => catalog.counted right t) = backward
    rcases forward ++ backward with _ | ⟨r, _ | ⟨r', rs⟩⟩
    · rfl
    · rfl
    · simp only [List.map_cons, List.map_map]
      rfl

/-- A table is not joined with itself by a key: a key that refers to its own table counts in both
directions. -/
theorem onKey_self (hright : j.right.namedTables.getLast? = some right) {t : NamedTable}
    (hleft : j.left.namedTables = [t]) (h : catalog.table? t.name = catalog.table? right.name)
    (joined : Join) : j.onKey catalog ≠ .ok joined := by
  intro hjoined
  rw [onKey_eq_byKeys hright, hleft] at hjoined
  have hone := length_eq_one_of_byKeys hjoined
  have hsame : (catalog.counted t right).length = (catalog.counted right t).length :=
    catalog.length_relations_comm h _
  simp only [List.flatMap_cons, List.flatMap_nil, List.append_nil, List.length_append] at hone
  omega

/-! #### Counted and declared keys -/

section

variable {keys keys' : NamedTable → List KeyRelation}

/-- Lists of fewer keys are the same in total only if they are the same for each table. -/
lemma eq_of_flatMap_eq (hsub : ∀ t, (keys' t).Sublist (keys t)) :
    ∀ {ts : List NamedTable}, ts.flatMap keys' = ts.flatMap keys → ∀ t ∈ ts, keys' t = keys t
  | [], _ => List.forall_mem_nil _
  | t :: ts, h => by
    have hlength := congrArg List.length h
    simp only [List.flatMap_cons, List.length_append] at h hlength
    have hfirst := (hsub t).length_le
    have hrest := (List.Sublist.flatMap_right ts fun t _ => hsub t).length_le
    -- the first table has no fewer keys, for the others cannot make up for it
    obtain ⟨ht, hts⟩ := List.append_inj h (by omega)
    exact List.forall_mem_cons.mpr ⟨ht, eq_of_flatMap_eq hsub hts⟩

/-- The keys of exposed tables are those of all tables exactly if the hidden ones have none and
nothing is left out of the exposed ones. -/
lemma flatMap_exposedTables_eq_iff (hsub : ∀ t, (keys' t).Sublist (keys t)) (t : Table) :
    t.exposedTables.flatMap keys' = t.namedTables.flatMap keys ↔
      (∀ u ∈ t.hiddenTables, keys u = []) ∧ ∀ u ∈ t.exposedTables, keys' u = keys u := by
  -- a hidden table with a key makes the right side longer, and nothing on the left makes up for it
  have hlength : (t.namedTables.flatMap keys).length =
      (t.exposedTables.flatMap keys).length + (t.hiddenTables.flatMap keys).length := by
    rw [(t.namedTables_perm.flatMap_right keys).length_eq, List.flatMap_append, List.length_append]
  have hle := List.Sublist.flatMap_right t.exposedTables fun u _ => hsub u
  have hexposed : (t.exposedTables.flatMap keys).Sublist (t.namedTables.flatMap keys) :=
    t.exposedTables_sublist.flatMap keys
  constructor
  · intro h
    have hless := hle.length_le
    rw [h] at hless
    refine ⟨List.flatMap_eq_nil_iff.mp (List.length_eq_zero_iff.mp (by omega)), ?_⟩
    exact eq_of_flatMap_eq hsub (hle.eq_of_length_le (by rw [h]; omega))
  · rintro ⟨hhidden, hsame⟩
    have hnone : t.hiddenTables.flatMap keys = [] := List.flatMap_eq_nil_iff.mpr hhidden
    rw [hnone, List.length_nil] at hlength
    rw [List.flatMap_congr hsame]
    exact hexposed.eq_of_length hlength.symm

end

/-- **Joins by a key.** The join by a key resolves the declared relation of its sides exactly if no
hidden table of the left side has a key that is counted, in either direction, and all keys that are
counted for the exposed tables refer to names for which the catalog has the table that they are
counted for. -/
theorem onKey_resolves_iff (catalog : Catalog)
    (hright : j.right.namedTables.getLast? = some right) :
    j.ResolvesKey catalog right (j.onKey catalog) ↔
      (∀ t ∈ j.left.hiddenTables, catalog.counted t right = [] ∧ catalog.counted right t = []) ∧
      ∀ t ∈ j.left.exposedTables, ∀ r ∈ catalog.counted t right ++ catalog.counted right t,
        catalog.table? r.key.target = catalog.table? r.target.name := by
  have hforward := flatMap_exposedTables_eq_iff
    (fun t => catalog.declared_sublist t right) j.left
  have hbackward := flatMap_exposedTables_eq_iff
    (fun t => catalog.declared_sublist right t) j.left
  -- the keys taken are too many or too few only by the lists themselves, as one is part of the
  -- other
  have hkeys : j.ResolvesKey catalog right (j.onKey catalog) ↔
      (j.forwardKeys catalog right = j.left.namedTables.flatMap fun t => catalog.counted t right) ∧
      (j.backwardKeys catalog right =
        j.left.namedTables.flatMap fun t => catalog.counted right t) := by
    rw [onKey_eq_byKeys hright]
    constructor
    · intro h
      exact h.eq_of_sublist
        ((List.Sublist.flatMap_right _ fun t _ => catalog.declared_sublist t right).trans
          (j.left.exposedTables_sublist.flatMap _))
        ((List.Sublist.flatMap_right _ fun t _ => catalog.declared_sublist right t).trans
          (j.left.exposedTables_sublist.flatMap _))
    · rintro ⟨hf, hb⟩
      rw [← hf, ← hb]
      exact resolvesKey_byKeys
  rw [hkeys, forwardKeys, backwardKeys, hforward, hbackward]
  simp only [Catalog.declared_eq_counted_iff, List.forall_mem_append, forall_and]
  exact and_and_and_comm

/-! #### Books and their authors -/

/-- A table that is known by its name and its foreign keys. -/
def tableWith (name : List String) (foreignKeys : List ForeignKey) : TableInfo :=
  ⟨.ofTexts name, [], none, [], foreignKeys⟩

/-- Two schemas with authors. The books are in the first one, and refer to the authors there. -/
def library : Catalog :=
  ⟨[⟨.ofText "s1", [tableWith ["s1", "author"] [], tableWith ["s1", "book"]
      [⟨"book_author", ["author_id"], .ofTexts ["s1", "author"], ["id"]⟩]], []⟩,
    ⟨.ofText "s2", [tableWith ["s2", "author"] []], []⟩]⟩

/-- The books. -/
def books : NamedTable :=
  ⟨.ofTexts ["s1", "book"], none, []⟩

/-- The authors of a schema. -/
def authors (schema : String) : NamedTable :=
  ⟨.ofTexts [schema, "author"], none, []⟩

/-- A table joined with the books. -/
def withBooks (left : Table) : Join :=
  .between left (.named books) .inner

/-- The authors of the first schema are joined with the books by the key of the books. -/
theorem onKey_resolves_author :
    (withBooks (.named (authors "s1"))).ResolvesKey library books
        ((withBooks (.named (authors "s1"))).onKey library) ∧
      (withBooks (.named (authors "s1"))).forwardKeys library books = [] ∧
      ((withBooks (.named (authors "s1"))).backwardKeys library books).length = 1 := by
  refine ⟨(onKey_resolves_iff library rfl).mpr ⟨?_, ?_⟩, ?_, ?_⟩
  · decide +kernel
  · decide +kernel
  · decide +kernel
  · decide +kernel

/-- No key relates the authors of the second schema to the books, nor is there one for a join that
only tests whether there are authors of the first. But both are joined with the books by a key. -/
theorem onKey_resolves_not_author :
    (¬(withBooks (.named (authors "s2"))).ResolvesKey library books
        ((withBooks (.named (authors "s2"))).onKey library)) ∧
      ¬(withBooks (.join (.between .dual (.named (authors "s1")) .leftSemi))).ResolvesKey library
        books ((withBooks (.join (.between .dual (.named (authors "s1")) .leftSemi))).onKey
          library) := by
  constructor
  · intro h
    exact absurd (h.succeeds.mp (exists_of_isOk (by decide +kernel))) (by decide +kernel)
  · intro h
    exact absurd (h.succeeds.mp (exists_of_isOk (by decide +kernel))) (by decide +kernel)

end Join

end Polysql

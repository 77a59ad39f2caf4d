import Mathlib.Data.List.Basic
import Polysql.Proofs.Joining.Query
import Polysql.Proofs.Name
import Polysql.Query.Columns
import Polysql.Render
/-!
Natural joins. A natural join compares the columns that its sides share by name, each name once. As
a condition it is a conjunction of equalities, one for each column of the left side that the right
side has as well. So it compares each name once exactly if no two of these columns have the same
name (`Join.naturalCondition_iff`). In a chain of joins they do: a column that two of the joined
tables have is compared with the next table twice (`Join.not_equatesOnce_of_join`), and where an
outer join has put NULL in one of them, rows that belong together do not meet.
-/

namespace Polysql

/-! ### Conjunctions -/

namespace Condition

/-- Some conditions as one: nothing is asked if there are none, and a single one stands for
itself. -/
def conjunction : List Condition → Condition
  | [] => always
  | [c] => c
  | cs => and cs

/-- The conditions that a conjunction asks for. -/
def conjuncts : Condition → List Condition
  | always => []
  | and cs => cs
  | c => [c]

/-- The condition compares two values. -/
def IsComparison (c : Condition) : Prop :=
  ∃ a op b, c = compare a op b

variable {cs : List Condition}

lemma conjuncts_conjunction (h : ∀ c ∈ cs, c.IsComparison) : (conjunction cs).conjuncts = cs := by
  match cs, h with
  | [], _ => rfl
  | [c], h =>
    obtain ⟨a, op, b, rfl⟩ := List.forall_mem_singleton.mp h
    rfl
  | _ :: _ :: _, _ => rfl

lemma foldl_both_and (h : ∀ c ∈ cs, c.IsComparison) (ds : List Condition) :
    cs.foldl both (and ds) = and (ds ++ cs) := by
  induction cs generalizing ds with
  | nil => rw [List.append_nil, List.foldl_nil]
  | cons c cs ih =>
    obtain ⟨⟨a, op, b, rfl⟩, hcs⟩ := List.forall_mem_cons.mp h
    rw [List.foldl_cons]
    change cs.foldl both (and (ds ++ [compare a op b])) = _
    rw [ih hcs, List.append_assoc, List.singleton_append]

/-- Comparisons are taken together as they are. -/
lemma all_eq_conjunction (h : ∀ c ∈ cs, c.IsComparison) : all cs = conjunction cs := by
  cases cs with
  | nil => rfl
  | cons c ds =>
    obtain ⟨⟨a, op, b, rfl⟩, hds⟩ := List.forall_mem_cons.mp h
    cases ds with
    | nil => rfl
    | cons d es =>
      obtain ⟨⟨a', op', b', rfl⟩, hes⟩ := List.forall_mem_cons.mp hds
      exact foldl_both_and hes [compare a op b, compare a' op' b']

end Condition

/-! ### Columns that are shared -/

/-- Equality of two columns. -/
def Condition.columnsEqual (p : Name × Name) : Condition :=
  equals (.column p.1) (.column p.2)

lemma Condition.columnsEqual_injective : Function.Injective columnsEqual := by
  rintro ⟨l, r⟩ ⟨l', r'⟩ h
  cases h
  rfl

lemma Condition.isComparison_columnsEqual (pairs : List (Name × Name)) :
    ∀ c ∈ pairs.map columnsEqual, c.IsComparison :=
  List.forall_mem_map.mpr fun _ _ => ⟨_, _, _, rfl⟩

namespace Join

variable (j : Join)

/-- Some pairs of a column of the left side and one of the right side have each name that both sides
have once, whatever the case of its letters. -/
structure PairsOnce (pairs : List (Name × Name)) : Prop where
  mem_fields : ∀ p ∈ pairs, p.1 ∈ j.left.fields ∧ p.2 ∈ j.right.fields
  same : ∀ p ∈ pairs, p.1.sameUnqualified p.2 = true
  complete : ∀ l ∈ j.left.fields, ∀ r ∈ j.right.fields, l.sameUnqualified r = true →
    ∃ p ∈ pairs, p.1.sameUnqualified l = true
  once : pairs.Pairwise fun p q => p.1.sameUnqualified q.1 = false

/-- The condition is the conjunction of one equality for each column name that both sides have. -/
def EquatesOnce (c : Condition) : Prop :=
  ∃ pairs, j.PairsOnce pairs ∧ c = .conjunction (pairs.map .columnsEqual)

/-- The columns of the left side whose name the right side has as well. -/
def sharedFields : List Name :=
  j.left.fields.filter fun l => j.right.fields.any l.sameUnqualified

lemma map_fst_commonFields : j.commonFields.map Prod.fst = j.sharedFields := by
  rw [commonFields, sharedFields]
  induction j.left.fields with
  | nil => rfl
  | cons l ls ih =>
    have hany : j.right.fields.any l.sameUnqualified =
        (j.right.fields.find? fun r => l.sameUnqualified r).isSome := by
      rw [Bool.eq_iff_iff, List.any_eq_true, List.find?_isSome]
    rw [List.filterMap_cons, List.filter_cons, ← ih, hany]
    cases j.right.fields.find? fun r => l.sameUnqualified r <;> rfl

/-- A shared column is compared with the first one of its name. -/
lemma mem_commonFields {p : Name × Name} :
    p ∈ j.commonFields ↔
      p.1 ∈ j.left.fields ∧ (j.right.fields.find? fun r => p.1.sameUnqualified r) = some p.2 := by
  obtain ⟨l, r⟩ := p
  simp [commonFields, List.mem_filterMap, Prod.ext_iff]

lemma naturalCondition_eq :
    j.naturalCondition = .conjunction (j.commonFields.map .columnsEqual) :=
  Condition.all_eq_conjunction (Condition.isComparison_columnsEqual j.commonFields)

/-- The columns that are compared are the ones that both sides have. -/
lemma pairsOnce_commonFields_iff : j.PairsOnce j.commonFields ↔
    j.sharedFields.Pairwise fun l l' => l.sameUnqualified l' = false := by
  rw [← map_fst_commonFields, List.pairwise_map]
  refine ⟨PairsOnce.once, fun honce =>
    ⟨fun p hp => ?_, fun p hp => ?_, fun l hl r hr h => ?_, honce⟩⟩
  · obtain ⟨hl, hr⟩ := j.mem_commonFields.mp hp
    exact ⟨hl, List.mem_of_find?_eq_some hr⟩
  · obtain ⟨-, hr⟩ := j.mem_commonFields.mp hp
    exact List.find?_some hr
  · have hfound : (j.right.fields.find? fun r => l.sameUnqualified r).isSome := by
      rw [List.find?_isSome]
      exact ⟨r, hr, h⟩
    obtain ⟨r', hr'⟩ := Option.isSome_iff_exists.mp hfound
    refine ⟨(l, r'), j.mem_commonFields.mpr ⟨hl, hr'⟩, ?_⟩
    have hsame := List.find?_some hr'
    exact Name.sameUnqualified_trans hsame (by rwa [Name.sameUnqualified_comm])

/-- The condition of a natural join says which columns are compared. -/
lemma equatesOnce_naturalCondition_iff :
    j.EquatesOnce j.naturalCondition ↔ j.PairsOnce j.commonFields := by
  refine ⟨fun ⟨pairs, honce, h⟩ => ?_, fun honce => ⟨_, honce, j.naturalCondition_eq⟩⟩
  have hconjuncts := congrArg Condition.conjuncts h
  rw [naturalCondition_eq,
    Condition.conjuncts_conjunction (Condition.isComparison_columnsEqual _),
    Condition.conjuncts_conjunction (Condition.isComparison_columnsEqual _)] at hconjuncts
  rwa [List.map_injective_iff.mpr Condition.columnsEqual_injective hconjuncts]

/-- **Natural joins.** The condition of a natural join equates each column name that both sides have
once if and only if no two of the columns of the left side that the right side has as well have the
same name. -/
theorem naturalCondition_iff (j : Join) : j.EquatesOnce j.naturalCondition ↔
    j.sharedFields.Pairwise fun l l' => l.sameUnqualified l' = false := by
  rw [equatesOnce_naturalCondition_iff, pairsOnce_commonFields_iff]

/-- A join on the left side shares what its sides share. -/
lemma sharedFields_join {l r right : Table} {type' type : JoinType} {on? on'? : Option Condition}
    {using_ using' : List Name} (h : type'.isSemiOrAnti = false) :
    sharedFields ⟨.join ⟨l, r, type', on?, using_⟩, right, type, on'?, using'⟩ =
      sharedFields ⟨l, right, type, on'?, using'⟩ ++
        sharedFields ⟨r, right, type, on'?, using'⟩ := by
  simp [sharedFields, Table.fields, h, List.filter_append]

/-- A column that both sides of a join have is compared with the next table twice. -/
lemma not_equatesOnce_of_join {l r right : Table} {type' type : JoinType}
    {on? on'? : Option Condition} {using_ using' : List Name} (htype : type'.isSemiOrAnti = false)
    {n m k : Name} (hn : n ∈ l.fields) (hm : m ∈ r.fields) (hk : k ∈ right.fields)
    (hnk : n.sameUnqualified k = true) (hmk : m.sameUnqualified k = true) :
    let j : Join := ⟨.join ⟨l, r, type', on?, using_⟩, right, type, on'?, using'⟩
    ¬j.EquatesOnce j.naturalCondition := by
  intro j hj
  rw [equatesOnce_naturalCondition_iff, pairsOnce_commonFields_iff,
    sharedFields_join htype, List.pairwise_append] at hj
  have hshared {t : Table} {n : Name} (hn : n ∈ t.fields) (hnk : n.sameUnqualified k = true) :
      n ∈ sharedFields ⟨t, right, type, on'?, using'⟩ :=
    List.mem_filter.mpr ⟨hn, List.any_eq_true.mpr ⟨k, hk, hnk⟩⟩
  have hdiffer := hj.2.2 n (hshared hn hnk) m (hshared hm hmk)
  rw [Name.sameUnqualified_trans hnk (by rwa [Name.sameUnqualified_comm])] at hdiffer
  cases hdiffer

/-- Three tables with one column, joined one after the other. The third is compared with the first
two. The second has no row, so that the third one has no partner either, although the first has the
same value. -/
theorem naturalCondition_chain :
    let t (name : String) : Table := .named ⟨.ofText name, none, [.ofText "x"]⟩
    let j : Join := ⟨.join ⟨t "a", t "b", .naturalLeft, none, []⟩, t "c", .naturalLeft, none, []⟩
    let db : Database := .ofValues fun n => if n = .ofText "b" then [] else [.ofNat 1]
    let rows (c : Condition) :=
      (Table.join ⟨.joinOnValue .left "a" "b" (t "a") (t "b"), t "c", .left, some c, []⟩).rows db
        .none_
    ¬j.EquatesOnce j.naturalCondition ∧
      j.naturalCondition = .and [.sameValue "a" "c", .sameValue "b" "c"] ∧
      j.EquatesOnce (.sameValue "a" "c") ∧
      (rows j.naturalCondition).map (fun row => (row (.ofTexts ["c", "x"])).map Value.isNull) =
        [some true] ∧
      (rows (.sameValue "a" "c")).map (fun row => (row (.ofTexts ["c", "x"])).map Value.isNull) =
        [some false] ∧
      (Renderer.render { dialect := .sqlServer } (.select { tables := [.join j] })).map
          Rendered.sql =
        .ok ("SELECT * FROM [a] LEFT OUTER JOIN [b] ON [a].[x] = [b].[x] " ++
          "LEFT OUTER JOIN [c] ON [a].[x] = [c].[x] AND [b].[x] = [c].[x]") := by
  intro t j db rows
  -- `c` meets `x` on both tables at its left, although the first join has made one column of them
  have hcommon : j.commonFields = [(.ofTexts ["a", "x"], .ofTexts ["c", "x"]),
      (.ofTexts ["b", "x"], .ofTexts ["c", "x"])] := by decide +kernel
  refine ⟨?_, by rw [naturalCondition_eq, hcommon]; rfl, ?_, ?_, ?_, ?_⟩
  · exact not_equatesOnce_of_join rfl List.mem_cons_self List.mem_cons_self List.mem_cons_self
      (by decide +kernel) (by decide +kernel)
  · refine ⟨[(.ofTexts ["a", "x"], .ofTexts ["c", "x"])], ⟨?_, ?_, ?_, ?_⟩, rfl⟩
    · decide +kernel
    · decide +kernel
    · decide +kernel
    · exact List.pairwise_singleton _ _
  · decide +kernel
  · decide +kernel
  · decide +kernel

end Join

end Polysql

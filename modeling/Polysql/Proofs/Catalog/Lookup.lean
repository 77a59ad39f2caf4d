import Polysql.Catalog
import Polysql.Proofs.Name
/-!
Lookup in the catalog. A catalog is built step by step: schemas are registered in it, and in each of
them tables and sequences, which are stored under the last part of their name behind the name of the
schema. A lookup takes its name apart again and compares the pieces by their last parts only. Where
those of the schemas, and those of the objects of each schema, are apart, the name that an object is
stored under finds this object and no other (`Catalog.finds_registered`).

Tables and sequences are looked up in the same way. What is proved of the lookup is proved once, for
objects of any kind that are stored under names.
-/

namespace Polysql

/-! ### Building a catalog -/

/-- The name that an object of a schema is stored under. -/
def Name.objectName (s n : Name) : Name :=
  s ++ n.unqualified

/-- A table as it is stored in a schema. -/
def TableInfo.inSchema (s : Name) (t : TableInfo) : TableInfo :=
  { t with name := s.objectName t.name }

/-- A sequence as it is stored in a schema. -/
def SequenceInfo.inSchema (s : Name) (q : SequenceInfo) : SequenceInfo :=
  { q with name := s.objectName q.name }

/-- An object that is registered in a schema. -/
inductive SchemaStep where
  /-- A table. -/
  | table (t : TableInfo)
  /-- A sequence. -/
  | sequence (q : SequenceInfo)

namespace SchemaStep

/-- The schema with the object. -/
def run (s : Schema) : SchemaStep → Schema
  | .table t => s.table t
  | .sequence q => s.sequence q

/-- The object, if it is a table. -/
def table? : SchemaStep → Option TableInfo
  | .table t => some t
  | .sequence _ => none

/-- The name of the object, if it is a sequence. -/
def sequence? : SchemaStep → Option SequenceInfo
  | .table _ => none
  | .sequence q => some q

end SchemaStep

/-- How a schema is built. -/
structure SchemaScript where
  /-- The name of the schema. -/
  name : Name
  /-- The objects in the order in which they are registered. -/
  steps : List SchemaStep

namespace SchemaScript

/-- The schema that is built. -/
def schema (b : SchemaScript) : Schema :=
  b.steps.foldl SchemaStep.run (.ofName b.name)

/-- The tables, under the names that they are given. -/
def tables (b : SchemaScript) : List TableInfo :=
  b.steps.filterMap SchemaStep.table?

/-- The sequences, under the names that they are given. -/
def sequences (b : SchemaScript) : List SequenceInfo :=
  b.steps.filterMap SchemaStep.sequence?

/-- The tables, under the names that they are stored under. -/
def storedTables (b : SchemaScript) : List TableInfo :=
  b.tables.map (TableInfo.inSchema b.name)

/-- The sequences, under the names that they are stored under. -/
def storedSequences (b : SchemaScript) : List SequenceInfo :=
  b.sequences.map (SequenceInfo.inSchema b.name)

end SchemaScript

/-- The catalog in which schemas are registered one after the other. -/
def Catalog.ofScripts (bs : List SchemaScript) : Catalog :=
  bs.foldl (fun c b => c.schema b.schema) .empty

/-- A step puts its object behind those that are there already, under the name of the schema, which
it keeps. -/
lemma SchemaStep.run_eq (s : Schema) (step : SchemaStep) : step.run s =
    { name := s.name
      tables := s.tables ++ step.table?.toList.map (TableInfo.inSchema s.name)
      sequences := s.sequences ++ step.sequence?.toList.map (SequenceInfo.inSchema s.name) } := by
  cases step with
  | table t => simp [run, Schema.table, Schema.qualify, table?, sequence?, TableInfo.inSchema,
      Name.objectName]
  | sequence q => simp [run, Schema.sequence, Schema.qualify, table?, sequence?,
      SequenceInfo.inSchema, Name.objectName]

lemma SchemaStep.foldl_run (steps : List SchemaStep) (s : Schema) : steps.foldl run s =
    { name := s.name
      tables := s.tables ++ (steps.filterMap table?).map (TableInfo.inSchema s.name)
      sequences := s.sequences ++
        (steps.filterMap sequence?).map (SequenceInfo.inSchema s.name) } := by
  induction steps generalizing s with
  | nil => simp
  | cons step steps ih =>
    rw [List.foldl_cons, ih, run_eq, List.filterMap_cons, List.filterMap_cons]
    cases step <;> simp [table?, sequence?]

/-- A schema holds what was registered in it, in this order and under the names with the schema. -/
lemma SchemaScript.schema_eq (b : SchemaScript) :
    b.schema = ⟨b.name, b.storedTables, b.storedSequences⟩ :=
  SchemaStep.foldl_run b.steps (.ofName b.name)

lemma Catalog.foldl_schema (bs : List SchemaScript) (c : Catalog) :
    (bs.foldl (fun c b => c.schema b.schema) c).schemas =
      c.schemas ++ bs.map SchemaScript.schema := by
  induction bs generalizing c with
  | nil => simp
  | cons b bs ih =>
    rw [List.foldl_cons, ih, Catalog.schema]
    simp

lemma Catalog.schemas_ofScripts (bs : List SchemaScript) :
    (ofScripts bs).schemas = bs.map SchemaScript.schema :=
  foldl_schema bs .empty

/-! ### Names that are apart -/

/-- No name is empty, and the last parts of any two of them differ in more than ASCII case. -/
structure Name.Apart (ns : List Name) : Prop where
  isEmpty_eq : ∀ n ∈ ns, n.isEmpty = false
  pairwise : ns.Pairwise fun n m => n.sameUnqualified m = false

/-! ### Names of stored objects -/

namespace Name

variable {s n m : Name}

lemma exists_unqualified_eq (hn : n.isEmpty = false) :
    ∃ p, n.parts.getLast? = some p ∧ n.unqualified = ⟨[p]⟩ := by
  obtain ⟨ps⟩ := n
  rcases List.eq_nil_or_concat ps with rfl | ⟨ps, p, rfl⟩
  · cases hn
  · exact ⟨p, by simp, by simp [unqualified]⟩

lemma qualifier_objectName (s : Name) (hn : n.isEmpty = false) :
    (s.objectName n).qualifier = s := by
  obtain ⟨p, -, hp⟩ := exists_unqualified_eq hn
  rw [objectName, hp, qualifier, parts_append, List.dropLast_concat]

lemma isQualified_objectName (hs : s.isEmpty = false) (hn : n.isEmpty = false) :
    (s.objectName n).isQualified = true := by
  obtain ⟨p, -, hp⟩ := exists_unqualified_eq hn
  have hpos : 0 < s.parts.length := by
    rw [isEmpty, List.isEmpty_eq_false_iff] at hs
    exact List.length_pos_iff.mpr hs
  rw [objectName, hp, isQualified, parts_append, List.length_append, decide_eq_true_iff]
  exact Nat.succ_lt_succ hpos

lemma last?_objectName (s : Name) (hn : n.isEmpty = false) :
    (s.objectName n).last? = n.last? := by
  obtain ⟨p, hlast, hp⟩ := exists_unqualified_eq hn
  rw [objectName, hp, last?, last?, parts_append, List.getLast?_concat, hlast]

lemma sameUnqualified_objectName (s : Name) (hn : n.isEmpty = false) (hm : m.isEmpty = false) :
    (s.objectName n).sameUnqualified (s.objectName m) = n.sameUnqualified m := by
  rw [sameUnqualified, sameUnqualified, last?_objectName s hn, last?_objectName s hm]

end Name

/-! ### Lookup among stored objects -/

variable {α : Type}

/-- What is stored, schema by schema: the name of the schema and its objects. -/
abbrev Store (α : Type) := List (Name × List α)

namespace Store

/-- Stored objects are found by their names. -/
structure Finds (store : Store α) (nameOf : α → Name) (find? : Name → Option α) : Prop where
  /-- The name of an object, in any ASCII case, finds that very object. -/
  own : ∀ p ∈ store, ∀ a ∈ p.2, ∀ n : Name, n.sameIgnoringCase (nameOf a) = true →
    find? n = some a
  /-- The qualifier of a name selects the schema. -/
  selected : ∀ p ∈ store, ∀ n : Name, n.isQualified = true →
    p.1.sameUnqualified n.qualifier = true →
      find? n = p.2.find? fun a => (nameOf a).sameUnqualified n
  /-- A qualifier that names no schema finds nothing. -/
  foreign : ∀ n : Name, n.isQualified = true →
    (∀ p ∈ store, p.1.sameUnqualified n.qualifier = false) → find? n = none
  /-- Without a qualifier the first object of a name is found, in the order of all schemas. -/
  unqualified : ∀ n : Name, n.isQualified = false →
    find? n = (store.flatMap Prod.snd).find? fun a => (nameOf a).sameUnqualified n

/-- The names are what registration makes of them: the schemas are apart, and so are the objects of
each schema, which are stored behind its name. -/
structure Tidy (store : Store α) (nameOf : α → Name) : Prop where
  schemas : Name.Apart (store.map Prod.fst)
  isQualified : ∀ p ∈ store, ∀ a ∈ p.2, (nameOf a).isQualified = true
  qualifier : ∀ p ∈ store, ∀ a ∈ p.2, (nameOf a).qualifier = p.1
  pairwise : ∀ p ∈ store, p.2.Pairwise fun a b => (nameOf a).sameUnqualified (nameOf b) = false

/-- The schemas where an object of this name is looked for. -/
def candidates (store : Store α) (n : Name) : Store α :=
  store.filter fun p => !n.isQualified || p.1.sameUnqualified n.qualifier

/-- The first object of a name. -/
def find? (store : Store α) (nameOf : α → Name) (n : Name) : Option α :=
  ((store.candidates n).flatMap Prod.snd).find? fun a => (nameOf a).sameUnqualified n

variable {store : Store α} {nameOf : α → Name} {p : Name × List α} {n : Name}

lemma candidates_eq_nil (hn : n.isQualified = true)
    (hq : ∀ p ∈ store, p.1.sameUnqualified n.qualifier = false) : store.candidates n = [] := by
  refine List.filter_eq_nil_iff.mpr fun p hp => ?_
  simp [hn, hq p hp]

/-- A name selects one schema at most. -/
lemma Tidy.candidates_eq (h : store.Tidy nameOf) (hp : p ∈ store) (hn : n.isQualified = true)
    (hq : p.1.sameUnqualified n.qualifier = true) : store.candidates n = [p] := by
  obtain ⟨before, after, rfl⟩ := List.append_of_mem hp
  have hpairwise := h.schemas.pairwise
  rw [List.pairwise_map, List.pairwise_append, List.pairwise_cons] at hpairwise
  obtain ⟨-, ⟨hafter, -⟩, hbefore⟩ := hpairwise
  -- What is apart from `p` is not selected, for then it would have the same last part as `p`.
  have hothers (q : Name × List α) (hqp : q.1.sameUnqualified p.1 = false) :
      q.1.sameUnqualified n.qualifier = false := by
    rw [Bool.eq_false_iff]
    intro hqn
    rw [Name.sameUnqualified_comm] at hq
    simp [Name.sameUnqualified_trans hqn hq] at hqp
  have hnone : candidates before n = [] := by
    refine candidates_eq_nil hn fun q hqm => hothers q ?_
    exact hbefore q hqm p (List.mem_cons_self ..)
  have hnone' : candidates after n = [] := by
    refine candidates_eq_nil hn fun q hqm => hothers q ?_
    rw [Name.sameUnqualified_comm]
    exact hafter q hqm
  rw [candidates] at hnone hnone' ⊢
  rw [List.filter_append, List.filter_cons, hnone, hnone']
  simp [hq]

lemma Tidy.find?_selected (h : store.Tidy nameOf) (hp : p ∈ store) (hn : n.isQualified = true)
    (hq : p.1.sameUnqualified n.qualifier = true) :
    store.find? nameOf n = p.2.find? fun a => (nameOf a).sameUnqualified n := by
  rw [find?, h.candidates_eq hp hn hq, List.flatMap_singleton]

/-- Among the objects of its schema an object is the only one of its name. -/
lemma Tidy.find?_objects (h : store.Tidy nameOf) (hp : p ∈ store) {a : α} (ha : a ∈ p.2)
    (hn : (nameOf a).sameUnqualified n = true) :
    (p.2.find? fun b => (nameOf b).sameUnqualified n) = some a := by
  obtain ⟨before, after, hsplit⟩ := List.append_of_mem ha
  have hpairwise := h.pairwise p hp
  rw [hsplit, List.pairwise_append] at hpairwise
  obtain ⟨-, -, hbefore⟩ := hpairwise
  refine List.find?_eq_some_iff_append.mpr ⟨hn, before, after, hsplit, fun b hb => ?_⟩
  rw [Bool.not_eq_true', Bool.eq_false_iff]
  intro hbn
  have hapart := hbefore b hb a (List.mem_cons_self ..)
  rw [Name.sameUnqualified_comm] at hn
  simp [Name.sameUnqualified_trans hbn hn] at hapart

lemma Tidy.find?_own (h : store.Tidy nameOf) (hp : p ∈ store) {a : α} (ha : a ∈ p.2)
    (hn : n.sameIgnoringCase (nameOf a) = true) : store.find? nameOf n = some a := by
  have hqualified : n.isQualified = true :=
    (Name.isQualified_of_sameIgnoringCase hn).trans (h.isQualified p hp a ha)
  have hschema : p.1.isEmpty = false :=
    h.schemas.isEmpty_eq p.1 (List.mem_map_of_mem hp)
  have hselects : p.1.sameUnqualified n.qualifier = true := by
    have hsame := Name.qualifier_sameIgnoringCase hn
    rw [h.qualifier p hp a ha] at hsame
    rw [Name.sameUnqualified_comm]
    exact Name.sameUnqualified_of_sameIgnoringCase hsame hschema
  have hlast : (nameOf a).sameUnqualified n = true := by
    rw [Name.sameUnqualified_comm]
    have hname := Name.isEmpty_of_isQualified (h.isQualified p hp a ha)
    exact Name.sameUnqualified_of_sameIgnoringCase hn hname
  rw [h.find?_selected hp hqualified hselects]
  exact h.find?_objects hp ha hlast

lemma find?_foreign (hn : n.isQualified = true)
    (hq : ∀ p ∈ store, p.1.sameUnqualified n.qualifier = false) : store.find? nameOf n = none := by
  rw [find?, candidates_eq_nil hn hq]
  rfl

lemma find?_unqualified (hn : n.isQualified = false) :
    store.find? nameOf n =
      (store.flatMap Prod.snd).find? fun a => (nameOf a).sameUnqualified n := by
  have hall : store.candidates n = store := by
    refine List.filter_eq_self.mpr fun p _ => ?_
    simp [hn]
  rw [find?, hall]

theorem Tidy.finds (h : store.Tidy nameOf) : store.Finds nameOf (store.find? nameOf) where
  own _ hp _ ha _ hn := h.find?_own hp ha hn
  selected _ hp _ hn hq := h.find?_selected hp hn hq
  foreign _ hn hq := find?_foreign hn hq
  unqualified _ hn := find?_unqualified hn

end Store

/-! ### Lookup in the catalog -/

namespace Catalog

variable (bs : List SchemaScript)

/-- The tables of the catalog, by schema. -/
def storedTables : Store TableInfo :=
  bs.map fun b => (b.name, b.storedTables)

/-- The sequences of the catalog, by schema. -/
def storedSequences : Store SequenceInfo :=
  bs.map fun b => (b.name, b.storedSequences)

lemma table?_ofScripts : (ofScripts bs).table? = (storedTables bs).find? TableInfo.name := by
  funext n
  simp only [table?, candidates, schemas_ofScripts, Store.find?, Store.candidates, storedTables,
    List.filter_map, List.flatMap_map, Function.comp_def, SchemaScript.schema_eq]

lemma sequence?_ofScripts :
    (ofScripts bs).sequence? = (storedSequences bs).find? SequenceInfo.name := by
  funext n
  simp only [sequence?, candidates, schemas_ofScripts, Store.find?, Store.candidates,
    storedSequences, List.filter_map, List.flatMap_map, Function.comp_def, SchemaScript.schema_eq]

variable {bs : List SchemaScript}

/-- Objects that are stored in their schemas are tidy, if the names that they are given are apart in
every schema. -/
lemma tidy_map (objects : SchemaScript → List α) (nameOf : α → Name) (put : Name → α → α)
    (hput : ∀ s a, nameOf (put s a) = s.objectName (nameOf a))
    (hs : Name.Apart (bs.map SchemaScript.name))
    (ho : ∀ b ∈ bs, Name.Apart ((objects b).map nameOf)) :
    Store.Tidy (bs.map fun b => (b.name, (objects b).map (put b.name))) nameOf where
  schemas := by
    rw [List.map_map]
    exact hs
  isQualified p hp a ha := by
    obtain ⟨b, hb, rfl⟩ := List.mem_map.mp hp
    obtain ⟨a, hab, rfl⟩ := List.mem_map.mp ha
    -- that no name is empty is part of being apart
    have hname := hs.isEmpty_eq b.name (List.mem_map_of_mem hb)
    have hlast := (ho b hb).isEmpty_eq (nameOf a) (List.mem_map_of_mem hab)
    rw [hput]
    exact Name.isQualified_objectName hname hlast
  qualifier p hp a ha := by
    obtain ⟨b, hb, rfl⟩ := List.mem_map.mp hp
    obtain ⟨a, hab, rfl⟩ := List.mem_map.mp ha
    have hlast := (ho b hb).isEmpty_eq (nameOf a) (List.mem_map_of_mem hab)
    rw [hput]
    exact Name.qualifier_objectName b.name hlast
  pairwise p hp := by
    obtain ⟨b, hb, rfl⟩ := List.mem_map.mp hp
    have hpairwise := (ho b hb).pairwise
    rw [List.pairwise_map] at hpairwise ⊢
    refine hpairwise.imp_of_mem fun {a c} ha hc hac => ?_
    have hlast := (ho b hb).isEmpty_eq (nameOf a) (List.mem_map_of_mem ha)
    have hlast' := (ho b hb).isEmpty_eq (nameOf c) (List.mem_map_of_mem hc)
    rw [hput, hput, Name.sameUnqualified_objectName b.name hlast hlast']
    exact hac

/-- Whatever is registered in a catalog, in whatever order, is found again. The names of the schemas
have to be apart, and so have those of the tables of each schema, or of its sequences, as they are
given. A qualifier names the schema with its last part. -/
theorem finds_registered (bs : List SchemaScript)
    (hs : Name.Apart (bs.map SchemaScript.name)) :
    ((∀ b ∈ bs, Name.Apart (b.tables.map TableInfo.name)) →
      (storedTables bs).Finds TableInfo.name (ofScripts bs).table?) ∧
    ((∀ b ∈ bs, Name.Apart (b.sequences.map SequenceInfo.name)) →
      (storedSequences bs).Finds SequenceInfo.name (ofScripts bs).sequence?) := by
  constructor
  · intro ht
    have htidy : (storedTables bs).Tidy TableInfo.name :=
      tidy_map SchemaScript.tables TableInfo.name TableInfo.inSchema (fun _ _ => rfl) hs ht
    rw [table?_ofScripts]
    exact htidy.finds
  · intro hq
    have htidy : (storedSequences bs).Tidy SequenceInfo.name :=
      tidy_map SchemaScript.sequences SequenceInfo.name SequenceInfo.inSchema (fun _ _ => rfl) hs hq
    rw [sequence?_ofScripts]
    exact htidy.finds

/-- A table of books. -/
def books : TableInfo :=
  ⟨.ofText "book", [], none, [], []⟩

/-- A sequence of even numbers. -/
def ids : SequenceInfo :=
  ⟨.ofText "ids", some 100, some 2⟩

/-- A schema with the table of books and a sequence. -/
def shop (name : Name) : SchemaScript :=
  ⟨name, [.sequence ids, .table books]⟩

/-- Two schemas have a table of the same name. Without a schema the name finds the one that was
registered first. -/
theorem finds_registered_books :
    let c := ofScripts [shop (.ofText "old"), shop (.ofTexts ["db", "new"])]
    c.table? (.ofTexts ["DB", "New", "BOOK"]) = some (books.inSchema (.ofTexts ["db", "new"])) ∧
      c.table? (.ofTexts ["other", "book"]) = none ∧
      c.table? (.ofText "Book") = some (books.inSchema (.ofText "old")) ∧
      c.sequence? (.ofTexts ["OLD", "ids"]) = some (ids.inSchema (.ofText "old")) := by
  have hs : Name.Apart [.ofText "old", .ofTexts ["db", "new"]] := by
    constructor
    · simp only [List.forall_mem_cons]
      exact ⟨rfl, rfl, by simp⟩
    · rw [List.pairwise_pair]
      change Text.sameIgnoringCase "old" "new" = false
      simp [Text.sameIgnoringCase, Text.foldCase, ← String.toList_inj]
  have hsingle {n : Name} (hn : n.isEmpty = false) : Name.Apart [n] :=
    ⟨List.forall_mem_singleton.mpr hn, List.pairwise_singleton ..⟩
  obtain ⟨htables, hsequences⟩ :=
    finds_registered [shop (.ofText "old"), shop (.ofTexts ["db", "new"])] hs
  have htables := htables (by
    simp only [List.forall_mem_cons]
    exact ⟨hsingle rfl, hsingle rfl, by simp⟩)
  have hsequences := hsequences (by
    simp only [List.forall_mem_cons]
    exact ⟨hsingle rfl, hsingle rfl, by simp⟩)
  refine ⟨?_, ?_, ?_, ?_⟩
  · refine htables.own _ (List.mem_cons_of_mem _ (List.mem_singleton_self _)) _
      (List.mem_singleton_self _) _ (Name.sameIgnoringCase_iff_folded.mpr ?_)
    change ["DB", "New", "BOOK"].map Text.foldCase = ["db", "new", "book"].map Text.foldCase
    simp [Text.foldCase, ← String.toList_inj]
  · refine htables.foreign _ rfl ?_
    simp only [storedTables, List.map_cons, List.map_nil, List.forall_mem_cons]
    refine ⟨?_, ?_, by simp⟩
    · change Text.sameIgnoringCase "old" "other" = false
      simp [Text.sameIgnoringCase, Text.foldCase, ← String.toList_inj]
    · change Text.sameIgnoringCase "new" "other" = false
      simp [Text.sameIgnoringCase, Text.foldCase, ← String.toList_inj]
  · rw [htables.unqualified _ rfl]
    refine List.find?_cons_of_pos ?_
    change Text.sameIgnoringCase "book" "Book" = true
    simp [Text.sameIgnoringCase, Text.foldCase, ← String.toList_inj]
  · refine hsequences.own _ (List.mem_cons_self ..) _ (List.mem_singleton_self _) _
      (Name.sameIgnoringCase_iff_folded.mpr ?_)
    change ["OLD", "ids"].map Text.foldCase = ["old", "ids"].map Text.foldCase
    simp [Text.foldCase, ← String.toList_inj]

end Catalog

end Polysql

import Polysql.Dialect
import Polysql.Text.Search
/-!
Sets of dialects. A set says which dialects have a feature, and is mostly given by the first
version that has it. Two sets are equal when they have the same members (`DialectSet.ext`).
-/

namespace Polysql

/-- A set of dialects, given by its members. -/
@[ext]
structure DialectSet where
  /-- Membership. -/
  contains : Dialect → Bool

namespace DialectSet

/-- The set without members. -/
def empty : DialectSet :=
  ⟨fun _ => false⟩

/-- The members of either set. -/
def union (s t : DialectSet) : DialectSet :=
  ⟨fun d => s.contains d || t.contains d⟩

instance : Union DialectSet := ⟨union⟩

/-- Each given dialect and every later version of its family. The dialect without a version stands
for the whole family. -/
def since (ds : List Dialect) : DialectSet :=
  ⟨fun c => ds.any fun d => c.family == d.family && (d.isFamily || d.index ≤ c.index)⟩

/-- Each given dialect and every earlier version of its family. -/
def until_ (ds : List Dialect) : DialectSet :=
  ⟨fun c => ds.any fun d => c.family == d.family && c.index ≤ d.index⟩

/-- The given dialects and no others. -/
def ofList (ds : List Dialect) : DialectSet :=
  ⟨ds.contains⟩

/-- The members, in the order of all dialects. -/
def toList (s : DialectSet) : List Dialect :=
  Dialect.all.filter s.contains

/-- Some version of the family is a member. -/
def containsFamily (s : DialectSet) (f : Family) : Bool :=
  Dialect.all.any fun d => d.family == f && s.contains d

/-- There is no member. -/
def isEmpty (s : DialectSet) : Bool :=
  !Dialect.all.any s.contains

/-- The members between braces. -/
def text (s : DialectSet) : String :=
  "\x7b" ++ Text.joined ", " (s.toList.map Dialect.tag) ++ "\x7d"

@[simp] theorem contains_union (s t : DialectSet) (d : Dialect) :
    (s ∪ t).contains d = (s.contains d || t.contains d) := rfl

@[simp] theorem contains_empty (d : Dialect) : empty.contains d = false := rfl

@[simp] theorem mem_toList (s : DialectSet) (d : Dialect) : d ∈ s.toList ↔ s.contains d = true := by
  simp [toList, Dialect.mem_all]

theorem isEmpty_iff (s : DialectSet) : s.isEmpty = true ↔ ∀ d, s.contains d = false := by
  simp [isEmpty, Dialect.mem_all]

end DialectSet

end Polysql

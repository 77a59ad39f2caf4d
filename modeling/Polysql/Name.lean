import Polysql.Text.Ascii
import Polysql.Text.Search
/-!
Names of tables, columns and other objects. A name is a path of parts, such as `shop.book.title`,
and each part may say whether it wants to be quoted. No part is empty, so that a name has as many
parts as its text shows.
-/

namespace Polysql

/-- Whether a part of a name is to be quoted. -/
inductive Quoting where
  /-- As the settings say. -/
  | byDefault
  /-- Always, unless quoting is switched off. -/
  | quoted
  /-- Never, unless quoting is forced. -/
  | unquoted
deriving DecidableEq, Repr

/-- One part of a name. -/
structure NamePart where
  /-- The text of the part. -/
  text : String
  /-- Whether the part is to be quoted. -/
  quoting : Quoting
  text_ne_empty : text ≠ ""
deriving DecidableEq

/-- A possibly qualified name. -/
structure Name where
  /-- The parts, the outermost qualifier first. -/
  parts : List NamePart
deriving DecidableEq

namespace NamePart

/-- The part with this text; there is none for the empty text. -/
def ofText? (quoting : Quoting) (text : String) : Option NamePart :=
  if h : text = "" then none else some ⟨text, quoting, h⟩

/-- The part, quoted in another way. -/
def requote (quoting : Quoting) (p : NamePart) : NamePart :=
  { p with quoting }

/-- The order of parts: by text, then by quoting. -/
def compare (p q : NamePart) : Ordering :=
  (compareOfLessAndEq p.text q.text).then (Ord.compare p.quoting.ctorIdx q.quoting.ctorIdx)

end NamePart

namespace Name

/-- The name with these texts as its parts, all quoted in one way. Empty texts are left out. -/
def ofTextsWith (quoting : Quoting) (texts : List String) : Name :=
  ⟨texts.filterMap (NamePart.ofText? quoting)⟩

/-- The name with these texts as its parts. -/
def ofTexts (texts : List String) : Name :=
  ofTextsWith .byDefault texts

/-- The name of one part, or of none for the empty text. -/
def ofText (text : String) : Name :=
  ofTexts [text]

/-- The name without parts. -/
def empty : Name := ⟨[]⟩

instance : Inhabited Name := ⟨empty⟩

/-- The name has no parts. -/
def isEmpty (n : Name) : Bool :=
  n.parts.isEmpty

/-- The name has more than one part. -/
def isQualified (n : Name) : Bool :=
  1 < n.parts.length

/-- The last part alone. -/
def unqualified (n : Name) : Name :=
  ⟨n.parts.getLast?.toList⟩

/-- Every part but the last. -/
def qualifier (n : Name) : Name :=
  ⟨n.parts.dropLast⟩

/-- The text of the first part. -/
def first? (n : Name) : Option String :=
  n.parts.head?.map NamePart.text

/-- The text of the last part. -/
def last? (n : Name) : Option String :=
  n.parts.getLast?.map NamePart.text

/-- The parts of `n` and then those of `m`. -/
def append (n m : Name) : Name :=
  ⟨n.parts ++ m.parts⟩

instance : Append Name := ⟨append⟩

/-- The name with all parts quoted in one way. -/
def requote (quoting : Quoting) (n : Name) : Name :=
  ⟨n.parts.map (NamePart.requote quoting)⟩

/-- The parts with dots between them. -/
def text (n : Name) : String :=
  Text.joined "." (n.parts.map NamePart.text)

/-- The last parts differ in ASCII case at most. A name without parts is like no other. -/
def sameUnqualified (n m : Name) : Bool :=
  match n.last?, m.last? with
  | some s, some t => Text.sameIgnoringCase s t
  | _, _ => false

/-- All parts differ in ASCII case at most. -/
def sameIgnoringCase (n m : Name) : Bool :=
  n.parts.length == m.parts.length &&
    (n.parts.zip m.parts).all fun (p, q) => Text.sameIgnoringCase p.text q.text

/-- The order of names: part by part, a shorter name before its continuations. -/
def compare (n m : Name) : Ordering :=
  go n.parts m.parts
where
  /-- The order of two lists of parts. -/
  go : List NamePart → List NamePart → Ordering
    | [], [] => .eq
    | [], _ :: _ => .lt
    | _ :: _, [] => .gt
    | p :: ps, q :: qs => (p.compare q).then (go ps qs)

@[simp] theorem parts_append (n m : Name) : (n ++ m).parts = n.parts ++ m.parts := rfl

theorem append_assoc (n m k : Name) : n ++ m ++ k = n ++ (m ++ k) :=
  congrArg Name.mk (List.append_assoc n.parts m.parts k.parts)

theorem sameUnqualified_comm (n m : Name) : n.sameUnqualified m = m.sameUnqualified n := by
  rw [sameUnqualified, sameUnqualified]
  cases n.last? <;> cases m.last? <;> simp [Text.sameIgnoringCase_comm]

theorem qualifier_append_unqualified (n : Name) : n.qualifier ++ n.unqualified = n := by
  obtain ⟨ps⟩ := n
  refine congrArg Name.mk ?_
  rcases List.eq_nil_or_concat ps with rfl | ⟨qs, q, rfl⟩ <;> simp [qualifier, unqualified]

end Name

end Polysql

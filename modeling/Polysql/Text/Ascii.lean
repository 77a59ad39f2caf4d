/-!
Comparison of identifiers without regard to ASCII case. Letters outside ASCII keep their case, so
`É` and `é` are different names.
-/

namespace Polysql.Text

/-- The text with its ASCII capitals made small. -/
def foldCase (s : String) : String :=
  s.map Char.toLower

/-- Two texts that differ in ASCII case at most. -/
def sameIgnoringCase (s t : String) : Bool :=
  foldCase s == foldCase t

@[simp] theorem sameIgnoringCase_refl (s : String) : sameIgnoringCase s s = true := by
  simp [sameIgnoringCase]

theorem sameIgnoringCase_comm (s t : String) :
    sameIgnoringCase s t = sameIgnoringCase t s := by
  simp [sameIgnoringCase, Bool.beq_comm]

end Polysql.Text

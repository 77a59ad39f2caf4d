/-!
Powers of the two bases that numbers are written in: doubles in base two, decimals and texts in base
ten.
-/

namespace Polysql

/-- The power of two with this exponent. -/
abbrev twoTo (n : Nat) : Nat := Nat.pow 2 n

/-- The power of ten with this exponent. -/
abbrev tenTo (n : Nat) : Nat := Nat.pow 10 n

end Polysql

/-!
The operators between expressions, and what can be said about them on their own.
-/

namespace Polysql

/-- Arithmetic between two numbers. -/
inductive ArithOp where
  | add
  | sub
  | mul
  | div
  | mod
deriving DecidableEq, Repr

/-- The sign of an arithmetic operator. -/
def ArithOp.sign : ArithOp → String
  | add => "+"
  | sub => "-"
  | mul => "*"
  | div => "/"
  | mod => "%"

/-- Bitwise operations. -/
inductive BitOp where
  | and
  | or
  | xor
  | not
  | nand
  | nor
  | xnor
  | shiftLeft
  | shiftRight
deriving DecidableEq, Repr

/-- Comparison of two values. -/
inductive CompareOp where
  | eq
  | ne
  | lt
  | le
  | gt
  | ge
deriving DecidableEq, Repr

namespace CompareOp

/-- The sign of a comparison. -/
def sign : CompareOp → String
  | eq => "="
  | ne => "<>"
  | lt => "<"
  | le => "<="
  | gt => ">"
  | ge => ">="

/-- The comparison without equality: `<` for `<=` and `>` for `>=`. -/
def strict : CompareOp → CompareOp
  | le => lt
  | ge => gt
  | op => op

/-- The comparison asks for an order, not only for equality. -/
def isOrdering : CompareOp → Bool
  | eq | ne => false
  | _ => true

/-- What a comparison says of two values in a given order. -/
def holds : CompareOp → Ordering → Bool
  | eq, o => o == .eq
  | ne, o => o != .eq
  | lt, o => o == .lt
  | le, o => o != .gt
  | gt, o => o == .gt
  | ge, o => o != .lt

end CompareOp

/-- Access to a sequence. -/
inductive SequenceOp where
  /-- The next value. -/
  | next
  /-- The value that was taken last. -/
  | current
deriving DecidableEq, Repr

/-- The direction of an order. -/
inductive Direction where
  | ascending
  | descending
deriving DecidableEq, Repr

/-- Where an order puts NULL. -/
inductive Nulls where
  | first
  | last
deriving DecidableEq, Repr

/-- Operations between the rows of two queries. -/
inductive SetOp where
  | union
  | intersect
  | except
deriving DecidableEq, Repr

/-- Ways to join two tables. -/
inductive JoinType where
  | inner
  | cross
  | natural
  | left
  | right
  | full
  | naturalLeft
  | naturalRight
  | naturalFull
  | leftSemi
  | leftAnti
  | crossApply
  | outerApply
  | straight
deriving DecidableEq, Repr

namespace JoinType

/-- The join equates the columns that both sides share. -/
def isNatural : JoinType → Bool
  | natural | naturalLeft | naturalRight | naturalFull => true
  | _ => false

/-- The join keeps rows of the left side only. -/
def isSemiOrAnti : JoinType → Bool
  | leftSemi | leftAnti => true
  | _ => false

/-- The right side is computed anew for every row of the left side. -/
def isApply : JoinType → Bool
  | crossApply | outerApply => true
  | _ => false

/-- The join takes a condition. -/
def isQualified : JoinType → Bool
  | inner | left | right | full | leftSemi | leftAnti | straight => true
  | _ => false

/-- The join with a condition that does what a natural join does. -/
def withoutNatural : JoinType → JoinType
  | natural => inner
  | naturalLeft => left
  | naturalRight => right
  | naturalFull => full
  | t => t

/-- The words of a join. -/
def keyword : JoinType → String
  | inner => "JOIN"
  | cross => "CROSS JOIN"
  | natural => "NATURAL JOIN"
  | left => "LEFT OUTER JOIN"
  | right => "RIGHT OUTER JOIN"
  | full => "FULL OUTER JOIN"
  | naturalLeft => "NATURAL LEFT OUTER JOIN"
  | naturalRight => "NATURAL RIGHT OUTER JOIN"
  | naturalFull => "NATURAL FULL OUTER JOIN"
  | leftSemi => "SEMI JOIN"
  | leftAnti => "ANTI JOIN"
  | crossApply => "CROSS APPLY"
  | outerApply => "OUTER APPLY"
  | straight => "STRAIGHT_JOIN"

end JoinType

end Polysql

/-!
Heights: how deep the parts of a pattern lie inside of each other.

A row is a number of things side by side. One thing alone is as high as it is, and several of them
are one higher than the highest.
-/

namespace Criteria.Pattern

/-! `highest` speaks of the things before the last one, which may still grow. -/

structure Row where
  count : Nat
  highest : Nat
  last : Nat
deriving DecidableEq

namespace Row

def empty : Row := ⟨0, 0, 0⟩

def add (row : Row) (height : Nat) : Row :=
  ⟨row.count + 1, max row.highest row.last, height⟩

def raiseLast (row : Row) : Row :=
  { row with last := row.last + 1 }

def height (row : Row) : Nat :=
  let highest := max row.highest row.last
  if row.count ≤ 1 then highest else highest + 1

end Row

end Criteria.Pattern

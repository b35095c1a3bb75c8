/-!
A set of code points given by its sorted boundaries: the set holds from the first boundary up to
the second, from the third up to the fourth, and so on. A code point belongs to it exactly when an
odd number of boundaries lie at or below the code point.
-/

namespace Criteria.Text

structure Boundaries where
  marks : Array Nat

namespace Boundaries

/-- Binary search for the number of marks at or below a code point, given that the answer lies
between `low` and `high`. -/
def rank (boundaries : Boundaries) (code low high : Nat) : Nat :=
  if low < high then
    let middle := (low + high) / 2
    if boundaries.marks.getD middle 0 ≤ code then boundaries.rank code (middle + 1) high
    else boundaries.rank code low middle
  else low
termination_by high - low

def contains (boundaries : Boundaries) (character : Char) : Bool :=
  boundaries.rank character.toNat 0 boundaries.marks.size % 2 == 1

end Boundaries

end Criteria.Text

import Criteria.Criterion

/-!
Composition of one or two criteria. Both terms are copied onto a new variable, named after the
variable of the left operand, and joined there.
-/

namespace Criteria

inductive Connective where
  | and
  | or
  | andNot
  | xor
  | implies
  | iff
  | nand
  | nor
deriving DecidableEq

namespace Connective

def named? : String → Option Connective
  | "and" | "&" => some .and
  | "or" | "|" => some .or
  | "and_not" => some .andNot
  | "xor" | "^" => some .xor
  | "implies" => some .implies
  | "iff" => some .iff
  | "nand" => some .nand
  | "nor" => some .nor
  | _ => none

variable {World : Type}

/-- The term for a connective, built from `AND`, `OR` and `NOT` alone. -/
def join : Connective → Term World → Term World → Term World
  | .and, left, right => .and left right
  | .or, left, right => .or left right
  | .andNot, left, right => .and left (.not right)
  | .xor, left, right => .or (.and left (.not right)) (.and (.not left) right)
  | .implies, left, right => .or (.not left) right
  | .iff, left, right => .or (.and left right) (.and (.not left) (.not right))
  | .nand, left, right => .not (.and left right)
  | .nor, left, right => .not (.or left right)

end Connective

namespace Criterion

variable {World : Type}

def combine (connective : Connective) (left right : Criterion World) :
    Fresh (Criterion World) := do
  let shared ← Fresh.symbol left.bound.name
  ofPredicate
    ⟨shared, connective.join (left.predicate.bodyOn shared) (right.predicate.bodyOn shared)⟩

def negate (criterion : Criterion World) : Fresh (Criterion World) := do
  let shared ← Fresh.symbol criterion.bound.name
  ofPredicate ⟨shared, .not (criterion.predicate.bodyOn shared)⟩

/-! ## Operators

Three of the connectives and the negation have a sign of their own. -/

instance : HAnd (Criterion World) (Criterion World) (Fresh (Criterion World)) :=
  ⟨combine .and⟩

instance : HOr (Criterion World) (Criterion World) (Fresh (Criterion World)) :=
  ⟨combine .or⟩

instance : HXor (Criterion World) (Criterion World) (Fresh (Criterion World)) :=
  ⟨combine .xor⟩

def complement (criterion : Criterion World) : Fresh (Criterion World) :=
  criterion.negate

def unaryNamed? : String → Option (Criterion World → Fresh (Criterion World))
  | "not" => some negate
  | "!" => some complement
  | _ => none

end Criterion

end Criteria

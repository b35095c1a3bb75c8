import Criteria.Property

/-!
Tests of lists. Tests of the length also accept text, whose length is its number of characters. A
missing value holds nothing and counts as empty.
-/

namespace Criteria

namespace Property

variable {World : Type}

def length (operator : String) : Value → Except Failure Nat
  | .none => .ok 0
  | .list items => .ok items.length
  | .string text => .ok text.length
  | other => .error (mismatch operator "list" other)

def lengthTest (property : Property) (operator : String) (operand : Option Value)
    (accepts : Nat → Bool) : Fresh (Criterion World) :=
  property.test operator operand fun value => (length operator value).map accepts

def holdsItem (needle : Value) : Value → Except Failure Bool
  | .none => .ok false
  | .list items => .ok (items.any (·.equal needle))
  | other => .error (mismatch "contains" "list" other)

def contains (property : Property) (needle : Value) : Fresh (Criterion World) :=
  property.test "contains" (some needle) (holdsItem needle)

def isEmpty (property : Property) : Fresh (Criterion World) :=
  property.lengthTest "is empty" none (· == 0)

def notEmpty (property : Property) : Fresh (Criterion World) :=
  property.lengthTest "is not empty" none (0 < ·)

def lengthEq (property : Property) (expected : Nat) : Fresh (Criterion World) :=
  property.lengthTest "len =" (some (.ofSize expected)) (· == expected)

end Property

end Criteria

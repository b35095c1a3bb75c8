import Criteria.Criterion.Binary

/-!
A property is a path that waits for a test. The operations here give the simplest criteria about
the value at the path: comparisons, membership in a list, and presence.
-/

namespace Criteria

structure Property where
  path : Path

namespace Property

variable {World : Type}

def compare (property : Property) (comparison : Comparison) (value : Value) :
    Fresh (Criterion World) :=
  Criterion.compare property.path comparison value

def test (property : Property) (operator : String) (operand : Option Value)
    (run : Value → Except Failure Bool) : Fresh (Criterion World) :=
  Criterion.test property.path operator operand fun value => Probe.ofExcept (run value)

def eq (property : Property) (value : Value) : Fresh (Criterion World) :=
  property.compare .eq value

def ne (property : Property) (value : Value) : Fresh (Criterion World) :=
  property.compare .ne value

def between (property : Property) (low high : Value) : Fresh (Criterion World) := do
  Criterion.combine .and (← property.compare .ge low) (← property.compare .le high)

def oneOf (property : Property) (candidates : List Value) : Fresh (Criterion World) :=
  property.test "in" (some (.list candidates)) fun value => .ok (candidates.any value.equal)

def isNone (property : Property) : Fresh (Criterion World) :=
  property.test "is none" none fun value => .ok value.isNone

def isSome (property : Property) : Fresh (Criterion World) :=
  property.test "is some" none fun value => .ok (!value.isNone)

def isTrue (property : Property) : Fresh (Criterion World) :=
  property.eq (.bool true)

def isFalse (property : Property) : Fresh (Criterion World) :=
  property.eq (.bool false)

def mismatch (operator expected : String) (found : Value) : Failure :=
  .leaf operator ("expected " ++ expected ++ ", found " ++ found.kind)

end Property

end Criteria

import Criteria.Property

/-!
Tests of dates and date-times against bounds. A missing value never matches; a value that has no
order relative to a bound is a failure.
-/

namespace Criteria

namespace Property

variable {World : Type}

def orderAgainst (operator : String) (bound : Value) (subject : Value) :
    Except Failure (Option Ordering) :=
  if subject.isNone then .ok none
  else
    match subject.order bound with
    | some ordering => .ok (some ordering)
    | none =>
        .error (.leaf operator ("cannot order " ++ subject.kind ++ " against " ++ bound.kind))

def isBefore (bound subject : Value) : Except Failure Bool := do
  return (← orderAgainst "before" bound subject) == some .lt

def isAfter (bound subject : Value) : Except Failure Bool := do
  return (← orderAgainst "after" bound subject) == some .gt

def isWithin (start finish subject : Value) : Except Failure Bool := do
  let fromStart ← orderAgainst "within" start subject
  let toFinish ← orderAgainst "within" finish subject
  return (fromStart == some .gt || fromStart == some .eq) && toFinish == some .lt

def before (property : Property) (bound : Value) : Fresh (Criterion World) :=
  property.test "before" (some bound) (isBefore bound)

def after (property : Property) (bound : Value) : Fresh (Criterion World) :=
  property.test "after" (some bound) (isAfter bound)

/-- From the start up to, but not including, the finish. -/
def within (property : Property) (start finish : Value) : Fresh (Criterion World) :=
  property.test "within" (some (.list [start, finish])) (isWithin start finish)

end Property

end Criteria

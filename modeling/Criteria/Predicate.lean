import Criteria.Term.Compilation
import Criteria.Term.Same
import Criteria.Term.Substitution
import Criteria.Term.Trace

/-!
A predicate is a term together with the variable it is bound to.
-/

namespace Criteria

structure Predicate (World : Type) where
  bound : Variable
  body : Term World

namespace Predicate

variable {World : Type}

def inspect (predicate : Predicate World) : String :=
  "Symbolic \x7b var: " ++ predicate.bound.label ++ ", body: " ++ predicate.body.inspect ++ " \x7d"

def alphaSame (left right : Predicate World) : Bool :=
  if left.bound.same right.bound then left.body.same right.body
  else left.body.same (right.body.substitute right.bound left.bound)

def bodyOn (predicate : Predicate World) (shared : Variable) : Term World :=
  predicate.body.substitute predicate.bound shared

variable [Records World]

def evaluate (predicate : Predicate World) (entity : Record) : Probe World Bool :=
  predicate.body.holds ⟨predicate.bound, entity⟩

def trace (predicate : Predicate World) (mode : TraceMode) (entity : Record) :
    Probe World (Bool × Trace) :=
  predicate.body.trace ⟨predicate.bound, entity⟩ mode

def compile (predicate : Predicate World) : Record → Probe World Bool :=
  (predicate.body.compile predicate.bound).condition

end Predicate

end Criteria

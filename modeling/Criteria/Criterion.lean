import Criteria.Path
import Criteria.Predicate

/-!
Criteria: named, composable conditions about entities.

A criterion owns a predicate, which never changes. Composition always builds a new criterion over a
new variable and copies the operands onto it, so a criterion can take part in any number of
compositions. A counting criterion keeps its operands, because it counts them directly instead of
evaluating its term; a cached one keeps the criterion it was made from.

The identity of a criterion tells it from every other criterion, also from an equal one.
-/

namespace Criteria

inductive Quantifier where
  | exactly (count : Nat)
  | atLeast (count : Nat)
  | atMost (count : Nat)
deriving DecidableEq

namespace Quantifier

def named? (name : String) (count : Nat) : Option Quantifier :=
  match name with
  | "exactly" => some (.exactly count)
  | "at_least" => some (.atLeast count)
  | "at_most" => some (.atMost count)
  | _ => none

def threshold : Quantifier → Nat
  | .exactly count => count
  | .atLeast count => count
  | .atMost count => count

def accepts : Quantifier → Nat → Bool
  | .exactly count, found => found == count
  | .atLeast count, found => count ≤ found
  | .atMost count, found => found ≤ count

def comparison : Quantifier → Comparison
  | .exactly _ => .eq
  | .atLeast _ => .ge
  | .atMost _ => .le

def text : Quantifier → String
  | .exactly count => "exactly " ++ toString count
  | .atLeast count => "at least " ++ toString count
  | .atMost count => "at most " ++ toString count

def inspect : Quantifier → String
  | .exactly count => "Exactly(" ++ toString count ++ ")"
  | .atLeast count => "AtLeast(" ++ toString count ++ ")"
  | .atMost count => "AtMost(" ++ toString count ++ ")"

end Quantifier

/-- How a criterion is evaluated: by walking its term, by counting operands, or through a closure
that is compiled when it is first used. -/
inductive Method (Operand : Type) where
  | tree
  | count (operands : List Operand) (quantifier : Quantifier)
  | cached (source : Operand)

namespace Method

def kind {Operand : Type} : Method Operand → String
  | .tree => "tree"
  | .count _ _ => "count"
  | .cached _ => "cached"

end Method

structure Criterion (World : Type) where
  identity : Nat
  name : Option String
  predicate : Predicate World
  method : Method (Criterion World)

namespace Criterion

variable {World : Type}

def bound (criterion : Criterion World) : Variable :=
  criterion.predicate.bound

def body (criterion : Criterion World) : Term World :=
  criterion.predicate.body

def explain (criterion : Criterion World) : String :=
  criterion.body.explain

def text (criterion : Criterion World) : String :=
  criterion.name.getD criterion.explain

def quantifier? (criterion : Criterion World) : Option Quantifier :=
  match criterion.method with
  | .count _ quantifier => some quantifier
  | _ => none

def isCached (criterion : Criterion World) : Bool :=
  match criterion.method with
  | .cached _ => true
  | _ => false

def inspectName : Option String → String
  | none => "None"
  | some name => "Some(" ++ Text.quote name ++ ")"

/-! `label` says how the bound variable is shown. -/

def inspectWith (label : Variable → String) (criterion : Criterion World) : String :=
  "Specification \x7b name: " ++ inspectName criterion.name ++ ", kind: " ++
    Text.quote criterion.method.kind ++ ", var: " ++ label criterion.bound ++ ", tree: " ++
    Text.quote criterion.explain ++ " \x7d"

def inspect (criterion : Criterion World) : String :=
  criterion.inspectWith Variable.label

/-! ## Construction -/

def create (predicate : Predicate World) (method : Method (Criterion World)) :
    Fresh (Criterion World) := do
  return ⟨← Fresh.identity, none, predicate, method⟩

def ofPredicate (predicate : Predicate World) : Fresh (Criterion World) :=
  create predicate .tree

/-- A criterion for a term that mentions at most the given variable. Of several foreign variables
the one that was created first is named in the refusal. -/
def ofTerm (bound : Variable) (term : Term World) : Fresh (Except Refusal (Criterion World)) :=
  match term.freeVariables.find? (!·.same bound) with
  | some found => return .error (.unboundVariable bound found)
  | none => return .ok (← ofPredicate ⟨bound, term⟩)

def build (make : Variable → Term World) : Fresh (Except Refusal (Criterion World)) := do
  let bound ← Fresh.symbol Fresh.defaultName
  ofTerm bound (make bound)

def leaf (make : Variable → Term World) : Fresh (Criterion World) := do
  let bound ← Fresh.symbol Fresh.defaultName
  ofPredicate ⟨bound, make bound⟩

def compare (path : Path) (comparison : Comparison) (value : Value) : Fresh (Criterion World) :=
  leaf fun bound => .compare (path.bind bound) comparison (.literal value)

def test (path : Path) (operator : String) (operand : Option Value)
    (run : Value → Probe World Bool) : Fresh (Criterion World) := do
  let identity ← Fresh.identity
  leaf fun bound => .test (path.bind bound) operator operand ⟨identity, run⟩

def custom (label : String) (run : Record → Probe World Bool) : Fresh (Criterion World) := do
  let identity ← Fresh.identity
  leaf fun bound => .custom bound label ⟨identity, run⟩

def always (value : Bool) : Fresh (Criterion World) :=
  leaf fun _ => .bool value

/-- A copy with a name. A copy of a cached criterion has a closure of its own. -/
def named (criterion : Criterion World) (name : String) : Fresh (Criterion World) := do
  return ⟨← Fresh.identity, some name, criterion.predicate, criterion.method⟩

/-- The criterion evaluated through a closure. A cached criterion is returned as it is. -/
def cached (criterion : Criterion World) : Fresh (Criterion World) :=
  if criterion.isCached then return criterion
  else create criterion.predicate (.cached criterion)

def uncached (criterion : Criterion World) : Criterion World :=
  match criterion.method with
  | .cached source => source
  | _ => criterion

end Criterion

end Criteria

import Criteria.Criterion

/-!
Composition of any number of criteria. The terms are copied onto one new variable, named after the
variable of the first operand, and joined pairwise in a balanced tree that keeps their order, so its
depth grows with the logarithm of their number.

A counting criterion has the term that adds one for each satisfied operand and compares the sum
with the threshold.
-/

namespace Criteria

/-! ## Balanced joins -/

namespace Balanced

variable {Item : Type}

/-- Joins the first with the second, the third with the fourth, and so on. An item without a
partner stays as it is. -/
def pairUp (join : Item → Item → Item) : List Item → List Item
  | first :: second :: rest => join first second :: pairUp join rest
  | short => short

theorem length_pairUp (join : Item → Item → Item) :
    ∀ items : List Item, (pairUp join items).length = (items.length + 1) / 2
  | [] => by simp [pairUp]
  | [_] => by simp [pairUp]
  | _ :: _ :: rest => by
      simp only [pairUp, List.length_cons, length_pairUp join rest]
      omega

/-- Pairs up again and again until one item is left. -/
def join? (join : Item → Item → Item) : List Item → Option Item
  | [] => none
  | [last] => some last
  | first :: second :: rest => join? join (pairUp join (first :: second :: rest))
termination_by items => items.length
decreasing_by
  simp only [length_pairUp, List.length_cons]
  omega

end Balanced

namespace Criterion

variable {World : Type}

def noOperands (combinator : String) : Refusal :=
  .invalidArgument (combinator ++ " requires at least one specification")

def rebindAll (operands : List (Criterion World)) : Fresh (Variable × List (Term World)) := do
  let name := match operands with
    | first :: _ => first.bound.name
    | [] => Fresh.defaultName
  let shared ← Fresh.symbol name
  return (shared, operands.map (·.predicate.bodyOn shared))

def chain (combinator : String) (join : Term World → Term World → Term World)
    (operands : List (Criterion World)) : Fresh (Except Refusal (Predicate World)) := do
  if operands.isEmpty then return .error (noOperands combinator)
  let (shared, terms) ← rebindAll operands
  match Balanced.join? join terms with
  | some term => return .ok ⟨shared, term⟩
  | none => return .error (noOperands combinator)

def ofChain (make : Term World → Term World) :
    Except Refusal (Predicate World) → Fresh (Except Refusal (Criterion World))
  | .ok predicate => return .ok (← ofPredicate ⟨predicate.bound, make predicate.body⟩)
  | .error refusal => return .error refusal

def all (operands : List (Criterion World)) : Fresh (Except Refusal (Criterion World)) := do
  ofChain id (← chain "all" .and operands)

def anyOf (operands : List (Criterion World)) : Fresh (Except Refusal (Criterion World)) := do
  ofChain id (← chain "any_of" .or operands)

def noneOf (operands : List (Criterion World)) : Fresh (Except Refusal (Criterion World)) := do
  ofChain .not (← chain "none_of" .or operands)

def unitFor (term : Term World) : Term World :=
  .conditional term (.int 1) (.int 0)

def counting (quantifier : Quantifier) (operands : List (Criterion World)) :
    Fresh (Except Refusal (Criterion World)) := do
  let threshold := quantifier.threshold
  if operands.isEmpty then return .error (noOperands "counting combinator")
  if operands.length < threshold then
    return .error (.invalidArgument
      (quantifier.text ++ " is out of range for " ++ toString operands.length ++
        " specifications"))
  let (shared, terms) ← rebindAll operands
  match Balanced.join? Term.add (terms.map unitFor), Number.toInt64? threshold with
  | some sum, some bound =>
      return .ok (← create ⟨shared, .compare sum quantifier.comparison (.int bound)⟩
        (.count operands quantifier))
  | none, _ => return .error (.invalidArgument "no operands to count")
  | _, none =>
      return .error (.invalidArgument
        ("threshold " ++ toString threshold ++ " is too large"))

def combinatorNamed? (name : String) (count : Option Nat) :
    Option (List (Criterion World) → Fresh (Except Refusal (Criterion World))) :=
  match name, count with
  | "all", _ => some all
  | "any_of", _ => some anyOf
  | "none_of", _ => some noneOf
  | _, some count => (Quantifier.named? name count).map counting
  | _, none => none

end Criterion

end Criteria

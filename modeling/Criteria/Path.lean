import Criteria.Term
import Criteria.Value.Order

/-!
Paths: what to read from an entity, step by step, independent of any variable.
-/

namespace Criteria

inductive PathStep where
  | member (name : String)
  | call (method : String) (arguments : List Value)

structure Path where
  steps : List PathStep

namespace PathStep

variable {World : Type}

def apply (target : Term World) : PathStep → Term World
  | .member name => .member target name
  | .call method arguments => .call target method (arguments.map Term.literal)

def same : PathStep → PathStep → Bool
  | .member left, .member right => left == right
  | .call left leftArguments, .call right rightArguments =>
      left == right && Value.equalLists leftArguments rightArguments
  | _, _ => false

end PathStep

namespace Path

variable {World : Type}

def root : Path := ⟨[]⟩

def isRoot (path : Path) : Bool :=
  path.steps.isEmpty

def member (path : Path) (name : String) : Path :=
  ⟨path.steps ++ [.member name]⟩

def call (path : Path) (method : String) (arguments : List Value) : Path :=
  ⟨path.steps ++ [.call method arguments]⟩

def bind (path : Path) (symbol : Variable) : Term World :=
  path.steps.foldl PathStep.apply (.var symbol)

def sameSteps : List PathStep → List PathStep → Bool
  | [], [] => true
  | left :: lefts, right :: rights => left.same right && sameSteps lefts rights
  | _, _ => false

def same (left right : Path) : Bool :=
  sameSteps left.steps right.steps

end Path

end Criteria

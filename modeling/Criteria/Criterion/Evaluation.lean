import Criteria.Criterion

/-!
Evaluation of criteria.

A counting criterion evaluates every operand, in order, and then asks its quantifier. A cached one
goes through its closure and reports that it was used, so that whoever keeps track of closures can
tell the first use from the later ones.
-/

namespace Criteria

/-- A compiled criterion. Two handles are the same closure exactly when their identities agree. -/
structure Closure (World : Type) where
  identity : Nat
  nodes : Nat
  run : Record → Probe World Bool

namespace Closure

def inspect {World : Type} (closure : Closure World) : String :=
  "Compiled \x7b nodes: " ++ toString closure.nodes ++ ", .. \x7d"

end Closure

namespace Criterion

variable {World : Type}

def closureUse (criterion : Criterion World) : Touch :=
  .closure criterion.identity criterion.body.size criterion.text

variable [Records World]

mutual
def evaluate (entity : Record) : Criterion World → Probe World Bool
  | ⟨_, _, predicate, .tree⟩ => predicate.evaluate entity
  | ⟨_, _, _, .count operands quantifier⟩ => do
      return quantifier.accepts (← tally entity operands 0)
  | ⟨identity, name, predicate, .cached source⟩ => do
      Probe.touch (closureUse ⟨identity, name, predicate, .cached source⟩)
      predicate.compile entity

def tally (entity : Record) : List (Criterion World) → Nat → Probe World Nat
  | [], count => pure count
  | operand :: operands, count => do
      if ← operand.evaluate entity then tally entity operands (count + 1)
      else tally entity operands count
end

def trace (criterion : Criterion World) (mode : TraceMode) (entity : Record) :
    Probe World (Bool × Trace) :=
  criterion.predicate.trace mode entity

def compile (criterion : Criterion World) : Fresh (Closure World) := do
  return ⟨← Fresh.identity, criterion.body.size, criterion.predicate.compile⟩

/-- The closure to use for repeated calls, and the touch that using it makes. That of a cached
criterion is its own, which has the identity of the criterion; any other is compiled anew. -/
def compiled (criterion : Criterion World) : Fresh (Closure World × List Touch) := do
  if criterion.isCached then
    return (⟨criterion.identity, criterion.body.size, criterion.predicate.compile⟩,
      [criterion.closureUse])
  else return (← criterion.compile, [])

end Criterion

end Criteria

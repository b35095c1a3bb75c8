import Criteria.Event

/-!
Queries over lists of entities. The criterion is compiled once and then run on each entity.

`filter` and `count` stop at the first entity on which the criterion fails. A parallel query leaves
the runs to workers, who may take the entities in any order. `parallelFilter` has a loop in their
place that runs the criterion on every entity and fails if any run did.
-/

namespace Criteria

namespace Probe

variable {World Answer : Type}

/-- The same computation with its failure as an answer. -/
def attempt (probe : Probe World Answer) : Probe World (Except Failure Answer) :=
  fun world =>
    let outcome := probe world
    ⟨.ok outcome.answer, outcome.touches, outcome.world⟩

end Probe

namespace Query

variable {World : Type}

/-- A cached criterion uses the closure it has. -/
def prepare (criterion : Criterion World) : Probe World Unit :=
  if criterion.isCached then Probe.touch criterion.closureUse else pure ()

def keep (run : Record → Probe World Bool) : List Record → Probe World (List Record)
  | [] => pure []
  | entity :: entities => do
      if ← run entity then return entity :: (← keep run entities)
      else keep run entities

def tally (run : Record → Probe World Bool) : List Record → Nat → Probe World Nat
  | [], count => pure count
  | entity :: entities, count => do
      if ← run entity then tally run entities (count + 1)
      else tally run entities count

def attemptAll (run : Record → Probe World Bool) :
    List Record → Probe World (List (Record × Except Failure Bool))
  | [] => pure []
  | entity :: entities => do
      let verdict ← (run entity).attempt
      return (entity, verdict) :: (← attemptAll run entities)

def collect : List (Record × Except Failure Bool) → Except Failure (List Record)
  | [] => .ok []
  | (_, .error failure) :: _ => .error failure
  | (entity, .ok accepted) :: rest =>
      (collect rest).map fun accepteds => if accepted then entity :: accepteds else accepteds

/-- A way to run a condition on all entities and to put together those that it accepts. -/
abbrev Collecting (World : Type) :=
  (Record → Probe World Bool) → List Record → Probe World (List Record)

def gather : Collecting World := fun run entities => do
  Probe.ofExcept (collect (← attemptAll run entities))

variable [Records World]

def filter (criterion : Criterion World) (entities : List Record) : Probe World (List Record) := do
  prepare criterion
  keep criterion.predicate.compile entities

def parallelFilterBy (collecting : Collecting World) (criterion : Criterion World)
    (entities : List Record) : Probe World (List Record) := do
  prepare criterion
  collecting criterion.predicate.compile entities

def parallelFilter (criterion : Criterion World) (entities : List Record) :
    Probe World (List Record) :=
  parallelFilterBy gather criterion entities

def count (criterion : Criterion World) (entities : List Record) : Probe World Nat := do
  prepare criterion
  tally criterion.predicate.compile entities 0

/-- Where the chosen entities stand among all, counted from a start. The chosen ones are given in
the order of all. -/
def positions (start : Nat) : List Record → List Record → List Nat
  | entity :: entities, next :: chosen =>
      if entity == next then start :: positions (start + 1) entities chosen
      else positions (start + 1) entities (next :: chosen)
  | _, _ => []

def report (criterion : Criterion World) (entities matched : List Record) (milliseconds : Nat)
    (parallel : Bool) : Event :=
  .queryEnded entities.length matched.length milliseconds parallel criterion.text

end Query

end Criteria

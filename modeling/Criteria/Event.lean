import Criteria.Criterion.Evaluation

/-!
What there is to report about a run: closures that were compiled, queries that ended, and the work
of memos.
-/

namespace Criteria

inductive Event where
  | materialized (nodes : Nat) (criterion : String)
  | queryEnded (items matched milliseconds : Nat) (parallel : Bool) (criterion : String)
  | memoHit (result : Bool)
  | memoMissed
  | memoPurged (purged : Nat)
  | memoFull (capacity : Nat)

/-- The closures that have been compiled, by identity. A closure is compiled when it is first used
and kept from then on. -/
structure ReadyClosures where
  identities : List Nat

namespace ReadyClosures

def none : ReadyClosures := ⟨[]⟩

/-- The closures that the touches of a run compile for the first time, and all that are ready
afterwards. -/
def note (ready : ReadyClosures) : List Touch → List Event × ReadyClosures
  | [] => ([], ready)
  | .closure identity nodes label :: touches =>
      if ready.identities.contains identity then ready.note touches
      else
        let (events, after) := note ⟨identity :: ready.identities⟩ touches
        (.materialized nodes label :: events, after)
  | _ :: touches => ready.note touches

end ReadyClosures

end Criteria

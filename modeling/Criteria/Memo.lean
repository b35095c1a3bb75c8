import Criteria.Event

/-!
A criterion with a memory of its verdicts.

A verdict belongs to one entity, told from all others by identity and not by what it contains. It
is kept until it is taken back, even if the entity changes. A memo never keeps an entity alive:
which entities are alive is told to it, and the verdicts of the others are dropped when room is
needed. When there is no room the verdict is given but not kept, and failures are never kept.

The numbers of hits and of misses stand for counters of 64 bits. Neither can exceed the number of
evaluations, so the counters do not overflow in fewer than 2 ^ 64 of them.
-/

namespace Criteria

structure MemoEntry where
  entity : Record
  verdict : Bool

structure Memo (World : Type) where
  criterion : Criterion World
  capacity : Nat
  entries : List MemoEntry
  hits : Nat
  misses : Nat

/-- An evaluation through a memo: its outcome, the memo afterwards, and what there is to report
before and after the criterion itself is run. -/
structure MemoRun (World : Type) where
  outcome : Outcome World Bool
  memo : Memo World
  before : Event
  after : List Event

namespace Memo

variable {World : Type}

def defaultCapacity : Nat := 4096

def create (criterion : Criterion World) (capacity : Nat) : Memo World :=
  ⟨criterion, capacity, [], 0, 0⟩

def verdict? (memo : Memo World) (entity : Record) : Option Bool :=
  (memo.entries.find? (·.entity == entity)).map (·.verdict)

def invalidate (memo : Memo World) (entity : Record) : Bool × Memo World :=
  ((memo.verdict? entity).isSome,
    { memo with entries := memo.entries.filter (·.entity != entity) })

def clear (memo : Memo World) : Memo World :=
  { memo with entries := [] }

def purge (memo : Memo World) (alive : Record → Bool) : Nat × Memo World :=
  let kept := memo.entries.filter fun entry => alive entry.entity
  (memo.entries.length - kept.length, { memo with entries := kept })

def insert (memo : Memo World) (entity : Record) (verdict : Bool) : Memo World :=
  { memo with entries := ⟨entity, verdict⟩ :: memo.entries }

/-- Publishes a verdict, and keeps it if there is room, after a purge if there is none at first. The
verdict that a memo already has wins over a new one. -/
def publish (memo : Memo World) (alive : Record → Bool) (entity : Record) (verdict : Bool) :
    Bool × Memo World × List Event :=
  match memo.verdict? entity with
  | some kept => (kept, memo, [])
  | none =>
      if memo.entries.length < memo.capacity then (verdict, memo.insert entity verdict, [])
      else
        let (purged, after) := memo.purge alive
        if after.entries.length < memo.capacity then
          (verdict, after.insert entity verdict, [.memoPurged purged])
        else (verdict, after, [.memoPurged purged, .memoFull memo.capacity])

def evaluate [Records World] (memo : Memo World) (alive : Record → Bool) (entity : Record)
    (world : World) : MemoRun World :=
  match memo.verdict? entity with
  | some verdict =>
      ⟨⟨.ok verdict, [], world⟩, { memo with hits := memo.hits + 1 }, .memoHit verdict, []⟩
  | none =>
      let missed := { memo with misses := memo.misses + 1 }
      let outcome := memo.criterion.evaluate entity world
      match outcome.answer with
      | .ok verdict =>
          let (published, after, events) := missed.publish alive entity verdict
          ⟨⟨.ok published, outcome.touches, outcome.world⟩, after, .memoMissed, events⟩
      | .error failure =>
          ⟨⟨.error failure, outcome.touches, outcome.world⟩, missed, .memoMissed, []⟩

def hitRate (memo : Memo World) : Float :=
  if memo.hits + memo.misses = 0 then 0.0
  else memo.hits.toFloat / (memo.hits + memo.misses).toFloat

def inspectWith (label : Variable → String) (memo : Memo World) : String :=
  "Memoized \x7b spec: " ++ memo.criterion.inspectWith label ++ ", capacity: " ++
    toString memo.capacity ++ ", entries: " ++ toString memo.entries.length ++ " \x7d"

def inspect (memo : Memo World) : String :=
  memo.inspectWith Variable.label

end Memo

end Criteria

import Criteria.Proofs.Sequence
import Criteria.Term.Trace

/-!
The skeleton of a condition and the units that hang from it.

`AND`, `OR` and `NOT` are the skeleton of a term. The units are the largest parts that are none of
the three. `AND` and `OR` differ only in the verdict that leaves the result open, so they are one
link with that verdict as a parameter, and what is said of all skeletons has three cases: a unit, a
link and a negation.
-/

namespace Criteria

namespace Term

variable {World : Type}

def isUnit : Term World → Bool
  | .and _ _ => false
  | .or _ _ => false
  | .not _ => false
  | _ => true

def units : Term World → List (Term World)
  | .and left right => left.units ++ right.units
  | .or left right => left.units ++ right.units
  | .not operand => operand.units
  | unit => [unit]

def link : Bool → Term World → Term World → Term World
  | true, left, right => .and left right
  | false, left, right => .or left right

/-- The term with another one in the place of the unit at a position. -/
def replaceUnit : Term World → Nat → Term World → Term World
  | .and left right, position, standIn =>
      if position < left.units.length then .and (left.replaceUnit position standIn) right
      else .and left (right.replaceUnit (position - left.units.length) standIn)
  | .or left right, position, standIn =>
      if position < left.units.length then .or (left.replaceUnit position standIn) right
      else .or left (right.replaceUnit (position - left.units.length) standIn)
  | .not operand, position, standIn => .not (operand.replaceUnit position standIn)
  | _, _, standIn => standIn

@[elab_as_elim]
theorem skeleton_induction {motive : Term World → Prop}
    (unit : ∀ term : Term World, term.isUnit → motive term)
    (link : ∀ neutral left right, motive left → motive right → motive (link neutral left right))
    (not : ∀ operand, motive operand → motive (.not operand)) (term : Term World) :
    motive term := by
  induction term with
  | and left right leftHolds rightHolds => exact link true left right leftHolds rightHolds
  | or left right leftHolds rightHolds => exact link false left right leftHolds rightHolds
  | not operand operandHolds => exact not operand operandHolds
  | _ => exact unit _ rfl

/-! ## Units and their places -/

theorem units_of_isUnit {term : Term World} (unit : term.isUnit) : term.units = [term] := by
  cases term <;> first | rfl | cases unit

@[simp] theorem units_link (neutral : Bool) (left right : Term World) :
    (link neutral left right).units = left.units ++ right.units := by
  cases neutral <;> rfl

@[simp] theorem children_link (neutral : Bool) (left right : Term World) :
    (link neutral left right).children = [left, right] := by
  cases neutral <;> rfl

theorem replaceUnit_of_isUnit {term : Term World} (unit : term.isUnit) (position : Nat)
    (standIn : Term World) : term.replaceUnit position standIn = standIn := by
  cases term <;> first | rfl | cases unit

theorem replaceUnit_link_left {neutral : Bool} {left right standIn : Term World} {position : Nat}
    (inside : position < left.units.length) :
    (link neutral left right).replaceUnit position standIn =
      link neutral (left.replaceUnit position standIn) right := by
  cases neutral <;> simp only [link, replaceUnit, if_pos inside]

theorem replaceUnit_link_right {neutral : Bool} {left right standIn : Term World} {position : Nat}
    (beyond : left.units.length ≤ position) :
    (link neutral left right).replaceUnit position standIn =
      link neutral left (right.replaceUnit (position - left.units.length) standIn) := by
  cases neutral <;> simp only [link, replaceUnit, if_neg (Nat.not_lt.mpr beyond)]

/-! ## Evaluation along the skeleton

The two traces of a link, made of those of its parts. Like connectives they are written for any
monad, so that probes and their results are put together alike. -/

section

variable {Run : Type → Type} [Monad Run]

def linkShort (neutral : Bool) (left right : Run (Bool × Trace)) : Run (Bool × Trace) := do
  let leftTraced ← left
  if leftTraced.1 = neutral then
    let rightTraced ← right
    return (rightTraced.1, leftTraced.2 ++ rightTraced.2)
  else return leftTraced

def linkFull (neutral : Bool) (left right : Run (Bool × Trace)) : Run (Bool × Trace) := do
  let leftTraced ← left
  let rightTraced ← right
  return (if leftTraced.1 = neutral then rightTraced.1 else leftTraced.1,
    leftTraced.2 ++ rightTraced.2)

end

section

variable [Records World] (scope : Scope)

theorem holds_link (neutral : Bool) (left right : Term World) :
    (link neutral left right).holds scope =
      Probe.chained neutral (left.holds scope) (right.holds scope) := by
  cases neutral <;>
  · simp only [link, holds_and, holds_or, Probe.chained]
    congr 1
    funext verdict
    cases verdict <;> rfl

theorem holds_var_bound :
    (Term.var scope.bound : Term World).holds scope =
      Probe.fail (.bareVariable scope.bound.name) := by
  simp only [holds, value, Scope.expect, Variable.same_self, if_true]
  rfl

/-- Evaluates a unit on its own, and notes its text with its verdict. -/
def entry (unit : Term World) : Probe World TraceEntry := do
  let passed ← unit.holds scope
  return ⟨unit.explain, passed⟩

theorem entry_eq_map (unit : Term World) :
    entry scope unit = TraceEntry.mk unit.explain <$> unit.holds scope := by
  rw [entry, map_eq_pure_bind]

theorem trace_of_isUnit {term : Term World} (unit : term.isUnit) (mode : TraceMode) :
    term.trace scope mode = (do
      let passed ← term.holds scope
      return (passed, [⟨term.explain, passed⟩])) := by
  cases term <;> first | rfl | cases unit

theorem trace_not (operand : Term World) (mode : TraceMode) :
    (Term.not operand).trace scope mode = (do
      let traced ← operand.trace scope mode
      return (!traced.1, traced.2)) :=
  rfl

theorem trace_link_shortCircuit (neutral : Bool) (left right : Term World) :
    (link neutral left right).trace scope .shortCircuit =
      linkShort neutral (left.trace scope .shortCircuit) (right.trace scope .shortCircuit) := by
  cases neutral <;>
  · simp only [link, trace, linkShort]
    congr 1
    funext leftTraced
    rcases leftTraced with ⟨_ | _, entries⟩ <;> simp

theorem trace_link_exhaustive (neutral : Bool) (left right : Term World) :
    (link neutral left right).trace scope .exhaustive =
      linkFull neutral (left.trace scope .exhaustive) (right.trace scope .exhaustive) := by
  cases neutral <;>
  · simp only [link, trace, linkFull]
    congr 1
    funext leftTraced
    rcases leftTraced with ⟨_ | _, entries⟩ <;> simp

end

end Term

end Criteria

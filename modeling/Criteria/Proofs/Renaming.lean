import Criteria.Proofs.Skeleton
import Criteria.Proofs.Substitution
import Criteria.Proofs.TruthTable

/-!
Moving a term from one variable to another that does not occur in it.

The new variable may be any that is fresh for the term, and other variables may occur as well: they
are foreign before and after. Whoever does not look at the variables that failures name cannot tell
the two terms apart, neither by evaluating them nor by tracing them. Freshness is needed: a foreign
occurrence of the new variable would stand for the entity afterwards.
-/

namespace Criteria

variable {World : Type}

namespace Failure

/-- A failure without the variables that it names. -/
def withoutVariables : Failure → Failure
  | .bareVariable _ => .bareVariable ""
  | .foreignVariable _ _ => .foreignVariable ⟨0, ""⟩ ⟨0, ""⟩
  | failure => failure

end Failure

namespace Term

/-! ## The skeleton of a moved term -/

private theorem isUnit_rebind (old new : Variable) (term : Term World) :
    (term.rebind old new).isUnit = term.isUnit := by
  cases term <;> rfl

private theorem rebind_link (old new : Variable) (neutral : Bool) (left right : Term World) :
    (link neutral left right).rebind old new =
      link neutral (left.rebind old new) (right.rebind old new) := by
  cases neutral <;> rfl

/-! ## Traces without their texts

The text of a condition shows variables, so a trace is compared by its verdict and its flags. -/

def flags (traced : Bool × Trace) : Bool × List Bool :=
  (traced.1, traced.2.map (·.passed))

def linkFlags (mode : TraceMode) (neutral : Bool) (left right : Probe World (Bool × List Bool)) :
    Probe World (Bool × List Bool) := do
  let leftFlags ← left
  if leftFlags.1 = neutral then
    let rightFlags ← right
    return (rightFlags.1, leftFlags.2 ++ rightFlags.2)
  else if mode = .shortCircuit then return leftFlags
  else
    let rightFlags ← right
    return (leftFlags.1, leftFlags.2 ++ rightFlags.2)

private theorem observed_linkFlags (view : Failure → Failure) (mode : TraceMode) (neutral : Bool)
    (left right : Probe World (Bool × List Bool)) :
    (linkFlags mode neutral left right).observed view =
      linkFlags mode neutral (left.observed view) (right.observed view) := by
  simp only [linkFlags, Probe.observed_bind, Probe.observed_ite, Probe.observed_pure]

variable [Records World]

private theorem flags_trace_of_isUnit (scope : Scope) {term : Term World} (unit : term.isUnit)
    (mode : TraceMode) :
    flags <$> term.trace scope mode =
      (fun passed => (passed, [passed])) <$> term.holds scope := by
  rw [trace_of_isUnit scope unit]
  simp only [flags, map_eq_pure_bind, bind_assoc, pure_bind, List.map]

private theorem flags_trace_not (scope : Scope) (operand : Term World) (mode : TraceMode) :
    flags <$> (Term.not operand).trace scope mode =
      (fun flagged => (!flagged.1, flagged.2)) <$> (flags <$> operand.trace scope mode) := by
  rw [trace_not]
  simp only [flags, map_eq_pure_bind, bind_assoc, pure_bind]

private theorem flags_trace_link (scope : Scope) (mode : TraceMode) (neutral : Bool)
    (left right : Term World) :
    flags <$> (link neutral left right).trace scope mode =
      linkFlags mode neutral (flags <$> left.trace scope mode)
        (flags <$> right.trace scope mode) := by
  cases mode with
  | exhaustive =>
      rw [trace_link_exhaustive]
      simp only [linkFull, linkFlags, flags, map_eq_pure_bind, bind_assoc, pure_bind]
      congr 1
      funext leftTraced
      split <;> simp
  | shortCircuit =>
      rw [trace_link_shortCircuit]
      simp only [linkShort, linkFlags, flags, map_eq_pure_bind, bind_assoc, pure_bind]
      congr 1
      funext leftTraced
      split <;> simp

private theorem observed_flags_rebind (view : Failure → Failure) {old new : Variable}
    {entity : Record}
    (nameless : ∀ left right, view (.bareVariable left) = view (.bareVariable right))
    (mode : TraceMode) {term : Term World}
    (moves : ∀ symbol ∈ term.occurrences, Variable.MovesUnnoticed view old new symbol) :
    (flags <$> (term.rebind old new).trace ⟨new, entity⟩ mode).observed view =
      (flags <$> term.trace ⟨old, entity⟩ mode).observed view := by
  induction term using skeleton_induction with
  | unit term unit =>
      have movedUnit : (term.rebind old new).isUnit := by rw [isUnit_rebind, unit]
      rw [flags_trace_of_isUnit _ movedUnit, flags_trace_of_isUnit _ unit, Probe.observed_map,
        Probe.observed_map, observed_holds_rebind view nameless moves]
  | link neutral left right leftMoved rightMoved =>
      have occurrences : (link neutral left right).occurrences =
          left.occurrences ++ right.occurrences := by cases neutral <;> rfl
      rw [occurrences] at moves
      have leftSame := leftMoved fun symbol member => moves symbol (List.mem_append_left _ member)
      have rightSame := rightMoved fun symbol member =>
        moves symbol (List.mem_append_right _ member)
      rw [rebind_link, flags_trace_link, flags_trace_link, observed_linkFlags, observed_linkFlags,
        leftSame, rightSame]
  | not operand operandMoved =>
      have operandSame := operandMoved moves
      rw [rebind, flags_trace_not, flags_trace_not,
        Probe.observed_map view (flags <$> operand.trace ⟨old, entity⟩ mode), ← operandSame,
        Probe.observed_map view (flags <$> (operand.rebind old new).trace ⟨new, entity⟩ mode)]

/-! ## Fresh variables -/

/-- A variable that does not occur can take the place of another: the value, the truth value and the
flags of both kinds of trace stay the same, or the failure does up to the variables it names, and
the same members, methods and tests are touched in the same order. -/
theorem substitution_preserves_meaning {old new : Variable} (different : ¬ old.same new)
    {term : Term World} (fresh : ¬ term.mentions new) (entity : Record) :
    ((term.substitute old new).holds ⟨new, entity⟩).observed Failure.withoutVariables =
      (term.holds ⟨old, entity⟩).observed Failure.withoutVariables ∧
    ((term.substitute old new).value ⟨new, entity⟩).observed Failure.withoutVariables =
      (term.value ⟨old, entity⟩).observed Failure.withoutVariables ∧
    ∀ mode, (flags <$> (term.substitute old new).trace ⟨new, entity⟩ mode).observed
        Failure.withoutVariables =
      (flags <$> term.trace ⟨old, entity⟩ mode).observed Failure.withoutVariables := by
  have nameless : ∀ left right : String, Failure.withoutVariables (.bareVariable left) =
      Failure.withoutVariables (.bareVariable right) := fun _ _ => rfl
  have moves : ∀ symbol ∈ term.occurrences,
      Variable.MovesUnnoticed Failure.withoutVariables old new symbol := by
    intro symbol occurs
    by_cases own : symbol.same old
    · exact .inl own
    · have other : ¬ symbol.same new := fun same => fresh (mentions_iff.mpr ⟨symbol, occurs, same⟩)
      exact .inr ⟨other, rfl⟩
  rw [substitute_eq_rebind different]
  refine ⟨?_, ?_, ?_⟩
  · exact observed_holds_rebind _ nameless moves
  · exact observed_value_rebind _ nameless moves
  · intro mode
    exact observed_flags_rebind _ nameless mode moves

section

open Sample

def unsetOrForeign : Term Gallery :=
  .or (.not (Criterion.flag 0 "a").body) (Criterion.flag 7 "b").body

theorem unsetOrForeign_moved :
    ((unsetOrForeign.substitute ⟨0, "x"⟩ ⟨9, "y"⟩).holds ⟨⟨9, "y"⟩, ⟨0⟩⟩).observed
        Failure.withoutVariables Criterion.twoFlags =
      ⟨.error (.foreignVariable ⟨0, ""⟩ ⟨0, ""⟩), [.member ⟨0⟩ "a"], Criterion.twoFlags⟩ :=
  congrFun (substitution_preserves_meaning (by decide : ¬ Variable.same ⟨0, "x"⟩ ⟨9, "y"⟩)
    (by decide : ¬ unsetOrForeign.mentions ⟨9, "y"⟩) ⟨0⟩).1 Criterion.twoFlags

/-- With a variable that is not fresh the foreign operand would be about the entity. -/
example :
    ((unsetOrForeign.substitute ⟨0, "x"⟩ ⟨7, "x"⟩).holds ⟨⟨7, "x"⟩, ⟨0⟩⟩
      Criterion.twoFlags).answer =
      .ok false :=
  rfl

end

end Term

end Criteria

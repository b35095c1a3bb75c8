import Criteria.Criterion.Evaluation

/-!
Compiled closures do what walking the tree does: they give the same answer or failure, touch the
same things in the same order, and leave the same world behind.

The induction follows the term. Its hypothesis speaks of both closures of a term at once, because
operands of conditions are entered through the one and parts of values through the other.
-/

namespace Criteria

variable {World : Type} [Records World]

/-! ## Code against a term -/

namespace Code

structure Refines (code : Code World) (scope : Scope) (term : Term World) : Prop where
  condition : code.condition scope.entity = term.holds scope
  value : code.value scope.entity = term.value scope

namespace Refines

variable {scope : Scope} {term : Term World}

private theorem ofCondition {condition : Record → Probe World Bool}
    (equal : term.value scope = Value.bool <$> condition scope.entity) :
    (Code.ofCondition condition).Refines scope term where
  condition := (term.holds_of_value scope equal).symm
  value := by
    rw [equal, map_eq_pure_bind]
    rfl

private theorem ofValue {value : Record → Probe World Value}
    (equal : value scope.entity = term.value scope) :
    (Code.ofValue value).Refines scope term where
  condition := by
    unfold Term.holds
    rw [← equal]
    rfl
  value := equal

private theorem failing {failure : Failure} (equal : term.value scope = Probe.fail failure) :
    (Code.failing failure).Refines scope term where
  condition := by
    unfold Term.holds
    rw [equal, Probe.fail_bind]
    rfl
  value := equal.symm

end Refines

theorem runAll_compileAll {scope : Scope} {terms : List (Term World)}
    (refined : ∀ term ∈ terms, (term.compile scope.bound).Refines scope term) :
    runAll scope.entity (Term.compileAll scope.bound terms) = Term.valuesOf scope terms := by
  induction terms with
  | nil => rfl
  | cons term terms induction =>
      have first := (refined term List.mem_cons_self).value
      have rest := induction fun other member => refined other (List.mem_cons_of_mem _ member)
      simp only [Term.compileAll, runAll, Term.valuesOf, first, rest]

end Code

namespace Term

omit [Records World] in
private theorem exists_of_isBound {bound : Variable} {term : Term World}
    (found : term.isBound bound) : ∃ symbol, term = .var symbol ∧ symbol.same bound := by
  cases term with
  | var symbol => exact ⟨symbol, rfl, found⟩
  | _ => cases found

/-! ## Targets

A target that is nothing but the bound variable is replaced by the entity while compiling. Any other
target is run, a foreign variable included: it fails as a target does when it is walked. -/

private theorem value_member_of_not_bound {scope : Scope} {target : Term World} (name : String)
    (other : ¬ target.isBound scope.bound) :
    (Term.member target name).value scope =
      (do Probe.memberOf (← target.value scope) name) := by
  cases found : target.symbol? with
  | none => exact value_member scope name found
  | some symbol =>
      cases eq_var_of_symbol? found
      have foreign : symbol.same scope.bound = false := by simpa [isBound, found] using other
      rw [value_member_var]
      simp [value, Scope.expect, foreign]

private theorem value_call_of_not_bound {scope : Scope} {target : Term World} (method : String)
    (arguments : List (Term World)) (other : ¬ target.isBound scope.bound) :
    (Term.call target method arguments).value scope = (do
      let values ← valuesOf scope arguments
      Probe.callOn (← target.value scope) method values) := by
  cases found : target.symbol? with
  | none => exact value_call scope method arguments found
  | some symbol =>
      cases eq_var_of_symbol? found
      have foreign : symbol.same scope.bound = false := by simpa [isBound, found] using other
      rw [value_call_var]
      simp [value, Scope.expect, foreign]

/-! ## The induction -/

theorem compile_refines (scope : Scope) (term : Term World) :
    (term.compile scope.bound).Refines scope term := by
  induction term with
  | var symbol =>
      apply Code.Refines.failing
      by_cases same : symbol.same scope.bound <;>
        simp [value, Scope.expect, variableFailure, same]
  | literal literal =>
      cases literal with
      | bool verdict => exact ⟨rfl, rfl⟩
      | _ => exact Code.Refines.ofValue rfl
  | member target name targetRefined =>
      by_cases found : target.isBound scope.bound
      · rcases exists_of_isBound found with ⟨symbol, rfl, same⟩
        simp only [compile, if_pos found]
        apply Code.Refines.ofValue
        simp [value_member_var, Scope.expect, same]
      · simp only [compile, if_neg found]
        apply Code.Refines.ofValue
        rw [value_member_of_not_bound name found, targetRefined.value]
  | call target method arguments targetRefined argumentsRefined =>
      by_cases found : target.isBound scope.bound
      · rcases exists_of_isBound found with ⟨symbol, rfl, same⟩
        simp only [compile, if_pos found]
        apply Code.Refines.ofValue
        simp [value_call_var, Scope.expect, same, Code.runAll_compileAll argumentsRefined]
      · simp only [compile, if_neg found]
        apply Code.Refines.ofValue
        rw [value_call_of_not_bound method arguments found, targetRefined.value,
          Code.runAll_compileAll argumentsRefined]
  | compare left comparison right leftRefined rightRefined =>
      apply Code.Refines.ofCondition
      rw [value_compare, leftRefined.value, rightRefined.value]
  | test subject operator operand check subjectRefined =>
      apply Code.Refines.ofCondition
      rw [value_test, subjectRefined.value]
  | custom symbol label check =>
      by_cases same : symbol.same scope.bound
      · simp only [compile, if_pos same]
        apply Code.Refines.ofCondition
        simp [value_custom, Scope.expect, same]
      · simp only [compile, if_neg same]
        apply Code.Refines.failing
        simp [value, Scope.expect, same]
  | and left right leftRefined rightRefined =>
      apply Code.Refines.ofCondition
      rw [value_and, leftRefined.condition, rightRefined.condition]
  | or left right leftRefined rightRefined =>
      apply Code.Refines.ofCondition
      rw [value_or, leftRefined.condition, rightRefined.condition]
  | not operand operandRefined =>
      apply Code.Refines.ofCondition
      rw [value_not, operandRefined.condition]
  | conditional condition whenTrue whenFalse conditionRefined trueRefined falseRefined =>
      apply Code.Refines.ofValue
      rw [value_conditional, conditionRefined.condition, trueRefined.value, falseRefined.value]
  | add left right leftRefined rightRefined =>
      apply Code.Refines.ofValue
      rw [leftRefined.value, rightRefined.value]
      simp only [value]

end Term

namespace Predicate

theorem compile_eq_evaluate (predicate : Predicate World) (entity : Record) :
    predicate.compile entity = predicate.evaluate entity :=
  (predicate.body.compile_refines ⟨predicate.bound, entity⟩).condition

/-- For every variable and every term, closed or not, the compiled closure is the walk of the tree:
in the position of a condition, in that of a value, and over the arguments of a call. The equations
are between probes, so they speak of answers, failures, touches and the world left behind alike. -/
theorem compiled_runs_as_walked (bound : Variable) (entity : Record) :
    (∀ body : Term World,
      (Predicate.mk bound body).compile entity = (Predicate.mk bound body).evaluate entity) ∧
    (∀ term : Term World, (term.compile bound).value entity = term.value ⟨bound, entity⟩) ∧
    ∀ terms : List (Term World),
      Code.runAll entity (Term.compileAll bound terms) = Term.valuesOf ⟨bound, entity⟩ terms := by
  refine ⟨?_, ?_, ?_⟩
  · intro body
    exact compile_eq_evaluate ⟨bound, body⟩ entity
  · intro term
    exact (term.compile_refines ⟨bound, entity⟩).value
  · intro terms
    exact Code.runAll_compileAll fun term _ => term.compile_refines ⟨bound, entity⟩

end Predicate

namespace Criterion

theorem compile_run (criterion : Criterion World) (now : Supply) (entity : Record) :
    (criterion.compile now).1.run entity = criterion.predicate.evaluate entity :=
  criterion.predicate.compile_eq_evaluate entity

theorem compiled_run (criterion : Criterion World) (now : Supply) (entity : Record) :
    (criterion.compiled now).1.1.run entity = criterion.predicate.evaluate entity := by
  unfold compiled
  split <;> exact criterion.predicate.compile_eq_evaluate entity

end Criterion

end Criteria

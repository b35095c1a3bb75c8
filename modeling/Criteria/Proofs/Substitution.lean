import Criteria.Proofs.Observation
import Criteria.Proofs.Variables
import Criteria.Term.Evaluation
import Criteria.Term.Substitution

/-!
Moving a term to another variable: where variables occur afterwards, and that evaluation is observed
to be the same.

A move is seen only in the variables that failures carry. How much of that an observer may see
depends on the term: if the old variable is the only one that occurs, nothing but the name of a bare
variable changes; otherwise the failures about foreign variables change as well.
-/

namespace Criteria

namespace Variable

theorem renamed_of_same {symbol old : Variable} (new : Variable) (same : symbol.same old) :
    symbol.renamed old new = new := by
  simp [renamed, same]

theorem renamed_of_not_same {symbol old : Variable} (new : Variable) (other : ¬ symbol.same old) :
    symbol.renamed old new = symbol := by
  simp [renamed, other]

end Variable

namespace Term

variable {World : Type}

/-! ## Occurrences -/

theorem rebindAll_eq_map (old new : Variable) (terms : List (Term World)) :
    rebindAll old new terms = terms.map (rebind old new) := by
  induction terms with
  | nil => rfl
  | cons term terms induction => rw [rebindAll, induction, List.map_cons]

private theorem symbol?_rebind (old new : Variable) (term : Term World) :
    (term.rebind old new).symbol? = term.symbol?.map (·.renamed old new) := by
  cases term <;> simp [rebind, symbol?]

private theorem occurrencesInAll_rebindAll {old new : Variable} {terms : List (Term World)}
    (moved : ∀ term ∈ terms,
      (term.rebind old new).occurrences = term.occurrences.map (·.renamed old new)) :
    occurrencesInAll (rebindAll old new terms) =
      (occurrencesInAll terms).map (·.renamed old new) := by
  induction terms with
  | nil => rfl
  | cons term terms induction =>
      have first := moved term List.mem_cons_self
      have rest := induction fun other member => moved other (List.mem_cons_of_mem term member)
      simp only [rebindAll, occurrencesInAll, first, rest, List.map_append]

theorem occurrences_rebind (old new : Variable) (term : Term World) :
    (term.rebind old new).occurrences = term.occurrences.map (·.renamed old new) := by
  induction term with
  | call target method arguments targetMoved argumentsMoved =>
      simp only [rebind, occurrences, targetMoved, occurrencesInAll_rebindAll argumentsMoved,
        List.map_append]
  | _ => simp_all [rebind, occurrences]

theorem rebind_of_not_occurs {old : Variable} (new : Variable) {term : Term World}
    (absent : ∀ symbol ∈ term.occurrences, ¬ symbol.same old) : term.rebind old new = term := by
  induction term with
  | call target method arguments targetKept argumentsKept =>
      simp only [occurrences, List.mem_append, mem_occurrencesInAll] at absent
      have target_eq := targetKept fun symbol member => absent symbol (.inl member)
      have arguments_eq : arguments.map (rebind old new) = arguments.map id :=
        List.map_congr_left fun argument member => argumentsKept argument member
          fun symbol occurs => absent symbol (.inr ⟨argument, member, occurs⟩)
      rw [rebind, rebindAll_eq_map, target_eq, arguments_eq, List.map_id]
  | _ => simp_all [rebind, occurrences, Variable.renamed]

theorem substitute_eq_rebind {old new : Variable} (different : ¬ old.same new)
    (term : Term World) : term.substitute old new = term.rebind old new := by
  by_cases mentioned : term.mentions old
  · simp [substitute, different, mentioned]
  · have absent : ∀ symbol ∈ term.occurrences, ¬ symbol.same old := fun symbol member same =>
      mentioned (mentions_iff.mpr ⟨symbol, member, same⟩)
    simp [substitute, mentioned, rebind_of_not_occurs new absent]

end Term

/-! ## Evaluation -/

section Evaluation

variable {World : Type} (view : Failure → Failure) {old new : Variable} {entity : Record}

/-- Whether an occurrence of a variable can be moved without being noticed: it is the old variable,
or it stays foreign and the view does not tell to which of the two. -/
def Variable.MovesUnnoticed (old new symbol : Variable) : Prop :=
  symbol.same old ∨ (¬ symbol.same new ∧
    view (.foreignVariable new symbol) = view (.foreignVariable old symbol))

private theorem Scope.observed_expect_renamed (World : Type) (entity : Record) {symbol : Variable}
    (moves : Variable.MovesUnnoticed view old new symbol) :
    ((Scope.mk new entity).expect (symbol.renamed old new) : Probe World Unit).observed view =
      ((Scope.mk old entity).expect symbol : Probe World Unit).observed view := by
  by_cases same : symbol.same old
  · simp [Scope.expect, Variable.renamed_of_same new same, same]
  · rcases moves.resolve_left same with ⟨other, unseen⟩
    simp [Scope.expect, Variable.renamed_of_not_same new same, same, other, unseen]

variable [Records World]

namespace Term

private theorem observed_valuesOf_rebindAll {terms : List (Term World)}
    (moved : ∀ term ∈ terms, ((term.rebind old new).value ⟨new, entity⟩).observed view =
      (term.value ⟨old, entity⟩).observed view) :
    (valuesOf ⟨new, entity⟩ (rebindAll old new terms)).observed view =
      (valuesOf ⟨old, entity⟩ terms).observed view := by
  induction terms with
  | nil => rfl
  | cons term terms induction =>
      have first := moved term List.mem_cons_self
      have rest := induction fun other member => moved other (List.mem_cons_of_mem term member)
      simp only [rebindAll, valuesOf, Probe.observed_bind, Probe.observed_pure, first, rest]

/-- Evaluation after a move, with the new variable bound, is observed as evaluation before it. -/
theorem observed_value_rebind
    (nameless : ∀ left right, view (.bareVariable left) = view (.bareVariable right))
    {term : Term World}
    (moves : ∀ symbol ∈ term.occurrences, Variable.MovesUnnoticed view old new symbol) :
    ((term.rebind old new).value ⟨new, entity⟩).observed view =
      (term.value ⟨old, entity⟩).observed view := by
  induction term with
  | var symbol =>
      have expected := Scope.observed_expect_renamed view World entity
        (moves symbol (List.mem_singleton_self symbol))
      simp only [rebind, value, Probe.observed_bind, expected, Probe.observed_fail,
        nameless (symbol.renamed old new).name symbol.name]
  | literal literal => rfl
  | member target name targetMoved =>
      have target_eq := targetMoved moves
      cases found : target.symbol? with
      | none =>
          have kept : (target.rebind old new).symbol? = none := by rw [symbol?_rebind, found]; rfl
          rw [rebind, value_member _ name kept, value_member _ name found]
          simp only [Probe.observed_bind, target_eq]
      | some symbol =>
          cases eq_var_of_symbol? found
          have expected := Scope.observed_expect_renamed view World entity
            (moves symbol (List.mem_singleton_self symbol))
          rw [rebind, rebind, value_member_var, value_member_var]
          simp only [Probe.observed_bind, expected]
  | call target method arguments targetMoved argumentsMoved =>
      simp only [occurrences, List.mem_append, mem_occurrencesInAll] at moves
      have target_eq := targetMoved fun symbol member => moves symbol (.inl member)
      have arguments_eq := observed_valuesOf_rebindAll view fun argument member =>
        argumentsMoved argument member fun symbol occurs =>
          moves symbol (.inr ⟨argument, member, occurs⟩)
      cases found : target.symbol? with
      | none =>
          have kept : (target.rebind old new).symbol? = none := by rw [symbol?_rebind, found]; rfl
          rw [rebind, value_call _ method _ kept, value_call _ method _ found]
          simp only [Probe.observed_bind, target_eq, arguments_eq]
      | some symbol =>
          cases eq_var_of_symbol? found
          have expected := Scope.observed_expect_renamed view World entity
            (moves symbol (.inl (List.mem_singleton_self symbol)))
          rw [rebind, rebind, value_call_var, value_call_var]
          simp only [Probe.observed_bind, expected, arguments_eq]
  | compare left comparison right leftMoved rightMoved =>
      simp only [occurrences, List.mem_append] at moves
      have left_eq := leftMoved fun symbol member => moves symbol (.inl member)
      have right_eq := rightMoved fun symbol member => moves symbol (.inr member)
      simp only [rebind, value, Probe.observed_bind, left_eq, right_eq]
  | test subject operator operand check subjectMoved =>
      have subject_eq := subjectMoved moves
      simp only [rebind, value, Probe.observed_bind, subject_eq]
  | custom symbol label check =>
      have expected := Scope.observed_expect_renamed view World entity
        (moves symbol (List.mem_singleton_self symbol))
      simp only [rebind, value, Probe.observed_bind, expected]
  | and left right leftMoved rightMoved =>
      simp only [occurrences, List.mem_append] at moves
      have left_eq := leftMoved fun symbol member => moves symbol (.inl member)
      have right_eq := rightMoved fun symbol member => moves symbol (.inr member)
      simp only [rebind, value, Probe.observed_bind, Probe.observed_ite, left_eq, right_eq]
  | or left right leftMoved rightMoved =>
      simp only [occurrences, List.mem_append] at moves
      have left_eq := leftMoved fun symbol member => moves symbol (.inl member)
      have right_eq := rightMoved fun symbol member => moves symbol (.inr member)
      simp only [rebind, value, Probe.observed_bind, Probe.observed_ite, left_eq, right_eq]
  | not operand operandMoved =>
      have operand_eq := operandMoved moves
      simp only [rebind, value, Probe.observed_bind, operand_eq]
  | conditional condition whenTrue whenFalse conditionMoved trueMoved falseMoved =>
      simp only [occurrences, List.mem_append] at moves
      have condition_eq := conditionMoved fun symbol member => moves symbol (.inl (.inl member))
      have true_eq := trueMoved fun symbol member => moves symbol (.inl (.inr member))
      have false_eq := falseMoved fun symbol member => moves symbol (.inr member)
      simp only [rebind, value, Probe.observed_bind, Probe.observed_ite, condition_eq, true_eq,
        false_eq]
  | add left right leftMoved rightMoved =>
      simp only [occurrences, List.mem_append] at moves
      have left_eq := leftMoved fun symbol member => moves symbol (.inl member)
      have right_eq := rightMoved fun symbol member => moves symbol (.inr member)
      simp only [rebind, value, Probe.observed_bind, left_eq, right_eq]

theorem observed_holds_rebind
    (nameless : ∀ left right, view (.bareVariable left) = view (.bareVariable right))
    {term : Term World}
    (moves : ∀ symbol ∈ term.occurrences, Variable.MovesUnnoticed view old new symbol) :
    ((term.rebind old new).holds ⟨new, entity⟩).observed view =
      (term.holds ⟨old, entity⟩).observed view := by
  simp only [holds, Probe.observed_bind, observed_value_rebind view nameless moves]

end Term

end Evaluation

end Criteria

import Criteria.Proofs.Variables
import Criteria.Term.Trace

/-!
One induction for all that evaluation preserves.

A judgement speaks of probes and of what their answers are like. When it holds of finished
computations, of sequences, and of the failures that evaluation raises by itself, it holds of the
evaluation of every term, as long as it holds of the variables that the term expects and of the
reads, the calls and the opaque tests that the term leads to.
-/

namespace Criteria

/-! ## Parts -/

namespace Term

variable {World : Type}

inductive Contains : Term World → Term World → Prop where
  | self {term : Term World} : Contains term term
  | child {whole part inner : Term World} (member : part ∈ whole.children)
      (contains : Contains part inner) : Contains whole inner

theorem mem_occurrences_of_mem_children {whole part : Term World} (member : part ∈ whole.children)
    {symbol : Variable} (occurs : symbol ∈ part.occurrences) : symbol ∈ whole.occurrences := by
  cases whole with
  | call target method arguments =>
      simp only [occurrences, List.mem_append, mem_occurrencesInAll]
      rcases List.mem_cons.mp member with rfl | member
      · exact .inl occurs
      · exact .inr ⟨part, member, occurs⟩
  | _ => simp_all [children, occurrences] <;> grind

end Term

/-! ## Failures of evaluation itself -/

def Failure.isForeign : Failure → Bool
  | .foreignVariable _ _ => true
  | _ => false

namespace Value

private theorem isForeign_of_condition {value : Value} {failure : Failure}
    (failed : value.condition = .error failure) : failure.isForeign = false := by
  cases value <;> cases failed <;> rfl

theorem isNumber_of_add {left right sum : Value} (added : left.add right = .ok sum) :
    (∃ value, sum = .int value) ∨ ∃ value, sum = .float value := by
  unfold add at added
  split at added
  · split at added
    · cases added
      exact .inl ⟨_, rfl⟩
    · cases added
  all_goals cases added
  all_goals exact .inr ⟨_, rfl⟩

private theorem isForeign_of_add {left right : Value} {failure : Failure}
    (failed : left.add right = .error failure) : failure.isForeign = false := by
  unfold add at failed
  split at failed
  · split at failed
    · cases failed
    · cases failed
      rfl
  all_goals cases failed
  rfl

end Value

namespace Comparison

variable {comparison : Comparison} {left right : Value} {failure : Failure}

private theorem isForeign_of_decideOrder
    (failed : comparison.decideOrder left right = .error failure) : failure.isForeign = false := by
  unfold decideOrder at failed
  split at failed
  · cases failed
  · split at failed
    · cases failed
    · split at failed
      · cases failed
      · cases failed
        rfl

private theorem isForeign_of_apply (failed : comparison.apply left right = .error failure) :
    failure.isForeign = false := by
  cases comparison with
  | eq => cases failed
  | ne => cases failed
  | _ => exact isForeign_of_decideOrder failed

end Comparison

/-! ## Judgements -/

/-- A statement about probes that holds of sequences whose parts it holds of. The condition is what
it says of the answers. -/
structure Judgement (World : Type) where
  Passes : {Answer : Type} → Probe World Answer → (Answer → Prop) → Prop
  pure : ∀ {Answer : Type} {answer : Answer} {condition : Answer → Prop},
    condition answer → Passes (Pure.pure answer) condition
  fail : ∀ {Answer : Type} {failure : Failure} {condition : Answer → Prop},
    failure.isForeign = false → Passes (Probe.fail failure) condition
  bind : ∀ {Answer Next : Type} {probe : Probe World Answer} {next : Answer → Probe World Next}
    {before : Answer → Prop} {condition : Next → Prop}, Passes probe before →
    (∀ answer, before answer → Passes (next answer) condition) → Passes (probe >>= next) condition

namespace Judgement

variable {World : Type} (judgement : Judgement World)

theorem ofExcept {Answer : Type} {result : Except Failure Answer} {condition : Answer → Prop}
    (answers : ∀ answer, result = .ok answer → condition answer)
    (failures : ∀ failure, result = .error failure → failure.isForeign = false) :
    judgement.Passes (Probe.ofExcept result) condition := by
  cases result with
  | ok answer => exact judgement.pure (answers answer rfl)
  | error failure => exact judgement.fail (failures failure rfl)

theorem passes_expect {scope : Scope} {symbol : Variable} (same : symbol.same scope.bound) :
    judgement.Passes (scope.expect symbol) fun _ => True := by
  rw [Scope.expect, if_pos same]
  exact judgement.pure trivial

section

variable [Records World]

/-! A record that does not have the member or method makes a native failure of the read. -/

theorem passes_readMember {known : Value → Prop} {record : Record} {name : String}
    (asked : judgement.Passes (Probe.askMember record name)
      fun found => ∀ value, found = some value → known value) :
    judgement.Passes (Probe.readMember record name) known := by
  refine judgement.bind asked ?_
  intro found foundKnown
  cases found with
  | none => exact judgement.fail rfl
  | some value => exact judgement.pure (foundKnown value rfl)

theorem passes_callMethod {known : Value → Prop} {record : Record} {method : String}
    {arguments : List Value}
    (asked : judgement.Passes (Probe.askCall record method arguments)
      fun found => ∀ value, found = some value → known value) :
    judgement.Passes (Probe.callMethod record method arguments) known := by
  refine judgement.bind asked ?_
  intro found foundKnown
  cases found with
  | none => exact judgement.fail rfl
  | some value => exact judgement.pure (foundKnown value rfl)

/-- What a judgement has to be told about a term: that its variables pass where the bound one is
expected, which values may be met, that reading and calling leads from such values to such values,
and that the opaque tests pass, the values of a test after the subject that gave them. -/
structure Supports (known : Value → Prop) (scope : Scope) (term : Term World) : Prop where
  expect : ∀ symbol ∈ term.occurrences, judgement.Passes (scope.expect symbol) fun _ => True
  bool : ∀ verdict, known (.bool verdict)
  int : ∀ value, known (.int value)
  float : ∀ value, known (.float value)
  literal : ∀ {value}, term.Contains (.literal value) → known value
  entity : known (.record scope.entity)
  member : ∀ {record name}, known (.record record) →
    judgement.Passes (Probe.readMember record name) known
  call : ∀ {record method arguments}, known (.record record) →
    (∀ argument ∈ arguments, known argument) →
    judgement.Passes (Probe.callMethod record method arguments) known
  valueTest : ∀ {subject operator operand check},
    term.Contains (.test subject operator operand check) →
    judgement.Passes (subject.value scope) known →
    judgement.Passes (do
      let value ← subject.value scope
      Probe.touch (.test check.identity)
      check.run value) fun _ => True
  entityTest : ∀ {symbol label check}, term.Contains (.custom symbol label check) →
    judgement.Passes (do Probe.touch (.test check.identity); check.run scope.entity) fun _ => True

variable {judgement} {known : Value → Prop} {scope : Scope}

theorem Supports.part {whole part : Term World} (supports : judgement.Supports known scope whole)
    (member : part ∈ whole.children) : judgement.Supports known scope part where
  expect symbol occurs :=
    supports.expect symbol (Term.mem_occurrences_of_mem_children member occurs)
  bool := supports.bool
  int := supports.int
  float := supports.float
  literal contains := supports.literal (.child member contains)
  entity := supports.entity
  member := supports.member
  call := supports.call
  valueTest contains := supports.valueTest (.child member contains)
  entityTest contains := supports.entityTest (.child member contains)

theorem holds_of_value {term : Term World} (passes : judgement.Passes (term.value scope) known) :
    judgement.Passes (term.holds scope) fun _ => True := by
  refine judgement.bind passes ?_
  intro value _
  exact judgement.ofExcept (fun _ _ => trivial) fun failure => Value.isForeign_of_condition

private theorem value_of_holds {verdict : Probe World Bool} {term : Term World}
    (bool : ∀ verdict, known (.bool verdict)) (equal : term.value scope = Value.bool <$> verdict)
    (passes : judgement.Passes verdict fun _ => True) :
    judgement.Passes (term.value scope) known := by
  rw [equal, map_eq_pure_bind]
  exact judgement.bind passes fun verdict _ => judgement.pure (bool verdict)

private theorem passes_memberOf {term : Term World} (supports : judgement.Supports known scope term)
    {target : Value} (targetKnown : known target) (name : String) :
    judgement.Passes (Probe.memberOf target name) known := by
  cases target with
  | record record => exact supports.member targetKnown
  | _ => exact judgement.fail rfl

private theorem passes_callOn {term : Term World} (supports : judgement.Supports known scope term)
    {target : Value} (targetKnown : known target) (method : String) {arguments : List Value}
    (argumentsKnown : ∀ argument ∈ arguments, known argument) :
    judgement.Passes (Probe.callOn target method arguments) known := by
  cases target with
  | record record => exact supports.call targetKnown argumentsKnown
  | _ => exact judgement.fail rfl

private theorem passes_valuesOf {terms : List (Term World)}
    (passes : ∀ term ∈ terms, judgement.Passes (term.value scope) known) :
    judgement.Passes (Term.valuesOf scope terms) fun values => ∀ value ∈ values, known value := by
  induction terms with
  | nil => exact judgement.pure nofun
  | cons term terms induction =>
      have rest := induction fun other member => passes other (List.mem_cons_of_mem term member)
      refine judgement.bind (passes term List.mem_cons_self) ?_
      intro value valueKnown
      refine judgement.bind rest ?_
      intro values valuesKnown
      refine judgement.pure ?_
      intro found member
      rcases List.mem_cons.mp member with rfl | member
      · exact valueKnown
      · exact valuesKnown found member

/-! ## The induction -/

private theorem passes_value {term : Term World} (supports : judgement.Supports known scope term) :
    judgement.Passes (term.value scope) known := by
  induction term with
  | var symbol =>
      refine judgement.bind (supports.expect symbol (List.mem_singleton_self symbol)) ?_
      intro _ _
      exact judgement.fail rfl
  | literal value => exact judgement.pure (supports.literal .self)
  | member target name targetPasses =>
      have targetSupports := supports.part (List.mem_singleton_self target)
      cases found : target.symbol? with
      | none =>
          rw [Term.value_member scope name found]
          refine judgement.bind (targetPasses targetSupports) ?_
          intro value valueKnown
          exact passes_memberOf supports valueKnown name
      | some symbol =>
          cases Term.eq_var_of_symbol? found
          rw [Term.value_member_var]
          refine judgement.bind (targetSupports.expect symbol (List.mem_singleton_self symbol)) ?_
          intro _ _
          exact supports.member supports.entity
  | call target method arguments targetPasses argumentsPass =>
      have targetSupports := supports.part List.mem_cons_self
      have argumentsKnown := passes_valuesOf fun argument member =>
        argumentsPass argument member (supports.part (List.mem_cons_of_mem target member))
      cases found : target.symbol? with
      | none =>
          rw [Term.value_call scope method arguments found]
          refine judgement.bind argumentsKnown ?_
          intro values valuesKnown
          refine judgement.bind (targetPasses targetSupports) ?_
          intro value valueKnown
          exact passes_callOn supports valueKnown method valuesKnown
      | some symbol =>
          cases Term.eq_var_of_symbol? found
          rw [Term.value_call_var]
          refine judgement.bind argumentsKnown ?_
          intro values valuesKnown
          refine judgement.bind (targetSupports.expect symbol (List.mem_singleton_self symbol)) ?_
          intro _ _
          exact supports.call supports.entity valuesKnown
  | compare left comparison right leftPasses rightPasses =>
      refine value_of_holds supports.bool (Term.value_compare scope left comparison right) ?_
      refine judgement.bind (leftPasses (supports.part (by simp [Term.children]))) ?_
      intro leftValue _
      refine judgement.bind (rightPasses (supports.part (by simp [Term.children]))) ?_
      intro rightValue _
      exact judgement.ofExcept (fun _ _ => trivial) fun _ => Comparison.isForeign_of_apply
  | test subject operator operand check subjectPasses =>
      refine value_of_holds supports.bool (Term.value_test scope subject operator operand check) ?_
      apply supports.valueTest .self
      exact subjectPasses (supports.part (List.mem_singleton_self subject))
  | custom symbol label check =>
      refine value_of_holds supports.bool (Term.value_custom scope symbol label check) ?_
      refine judgement.bind (supports.expect symbol (List.mem_singleton_self symbol)) ?_
      intro _ _
      exact supports.entityTest .self
  | and left right leftPasses rightPasses =>
      have leftHolds := holds_of_value (leftPasses (supports.part (by simp [Term.children])))
      have rightHolds := holds_of_value (rightPasses (supports.part (by simp [Term.children])))
      refine value_of_holds supports.bool (Term.value_and scope left right) ?_
      refine judgement.bind leftHolds ?_
      intro verdict _
      cases verdict
      · exact judgement.pure trivial
      · exact rightHolds
  | or left right leftPasses rightPasses =>
      have leftHolds := holds_of_value (leftPasses (supports.part (by simp [Term.children])))
      have rightHolds := holds_of_value (rightPasses (supports.part (by simp [Term.children])))
      refine value_of_holds supports.bool (Term.value_or scope left right) ?_
      refine judgement.bind leftHolds ?_
      intro verdict _
      cases verdict
      · exact rightHolds
      · exact judgement.pure trivial
  | not operand operandPasses =>
      have operandHolds := holds_of_value (operandPasses (supports.part (by simp [Term.children])))
      refine value_of_holds supports.bool (Term.value_not scope operand) ?_
      refine judgement.bind operandHolds ?_
      intro verdict _
      exact judgement.pure trivial
  | conditional condition whenTrue whenFalse conditionPasses truePasses falsePasses =>
      have conditionHolds := holds_of_value
        (conditionPasses (supports.part (by simp [Term.children])))
      rw [Term.value_conditional]
      refine judgement.bind conditionHolds ?_
      intro verdict _
      cases verdict
      · exact falsePasses (supports.part (by simp [Term.children]))
      · exact truePasses (supports.part (by simp [Term.children]))
  | add left right leftPasses rightPasses =>
      refine judgement.bind (leftPasses (supports.part (by simp [Term.children]))) ?_
      intro leftValue _
      refine judgement.bind (rightPasses (supports.part (by simp [Term.children]))) ?_
      intro rightValue _
      refine judgement.ofExcept ?_ fun _ => Value.isForeign_of_add
      intro sum added
      rcases Value.isNumber_of_add added with ⟨value, rfl⟩ | ⟨value, rfl⟩
      · exact supports.int value
      · exact supports.float value

theorem passes_holds {term : Term World} (supports : judgement.Supports known scope term) :
    judgement.Passes (term.holds scope) fun _ => True :=
  holds_of_value (passes_value supports)

theorem passes_trace {term : Term World} (supports : judgement.Supports known scope term)
    (mode : TraceMode) : judgement.Passes (term.trace scope mode) fun _ => True := by
  induction term with
  | and left right leftPasses rightPasses =>
      have leftTraced := leftPasses (supports.part (by simp [Term.children]))
      have rightTraced := rightPasses (supports.part (by simp [Term.children]))
      refine judgement.bind leftTraced ?_
      intro traced _
      dsimp only
      split
      · exact judgement.pure trivial
      · exact judgement.bind rightTraced fun _ _ => judgement.pure trivial
  | or left right leftPasses rightPasses =>
      have leftTraced := leftPasses (supports.part (by simp [Term.children]))
      have rightTraced := rightPasses (supports.part (by simp [Term.children]))
      refine judgement.bind leftTraced ?_
      intro traced _
      dsimp only
      split
      · exact judgement.pure trivial
      · exact judgement.bind rightTraced fun _ _ => judgement.pure trivial
  | not operand operandPasses =>
      have operandTraced := operandPasses (supports.part (by simp [Term.children]))
      exact judgement.bind operandTraced fun _ _ => judgement.pure trivial
  | _ => exact judgement.bind (passes_holds supports) fun _ _ => judgement.pure trivial

end

end Judgement

end Criteria

import Criteria.Term.Operation

/-!
Evaluation of terms by walking the tree.

Every term has a value; a condition is a term that is asked for a truth value. `AND` and `OR`
evaluate their right operand only if the left one leaves the result open. The arguments of a call
are evaluated before its target, and everything else from left to right.
-/

namespace Criteria

/-- The variable a term is bound to, and the entity that stands for it. -/
structure Scope where
  bound : Variable
  entity : Record

namespace Scope

variable {World : Type}

def expect (scope : Scope) (found : Variable) : Probe World Unit :=
  if found.same scope.bound then pure () else Probe.fail (.foreignVariable scope.bound found)

end Scope

namespace Term

variable {World : Type} [Records World]

mutual
def value (scope : Scope) : Term World → Probe World Value
  | .var symbol => do
      scope.expect symbol
      Probe.fail (.bareVariable symbol.name)
  | .literal value => pure value
  | .member target name =>
      match target.symbol? with
      | some symbol => do
          scope.expect symbol
          Probe.readMember scope.entity name
      | none => do
          Probe.memberOf (← target.value scope) name
  | .call target method arguments => do
      let values ← valuesOf scope arguments
      match target.symbol? with
      | some symbol =>
          scope.expect symbol
          Probe.callMethod scope.entity method values
      | none => Probe.callOn (← target.value scope) method values
  | .compare left comparison right => do
      let leftValue ← left.value scope
      let rightValue ← right.value scope
      return .bool (← Probe.ofExcept (comparison.apply leftValue rightValue))
  | .test subject _ _ check => do
      let subjectValue ← subject.value scope
      Probe.touch (.test check.identity)
      return .bool (← check.run subjectValue)
  | .custom symbol _ check => do
      scope.expect symbol
      Probe.touch (.test check.identity)
      return .bool (← check.run scope.entity)
  | .and left right => do
      if ← Probe.ofExcept (← left.value scope).condition then
        return .bool (← Probe.ofExcept (← right.value scope).condition)
      else return .bool false
  | .or left right => do
      if ← Probe.ofExcept (← left.value scope).condition then return .bool true
      else return .bool (← Probe.ofExcept (← right.value scope).condition)
  | .not operand => do
      return .bool (!(← Probe.ofExcept (← operand.value scope).condition))
  | .conditional condition whenTrue whenFalse => do
      if ← Probe.ofExcept (← condition.value scope).condition then whenTrue.value scope
      else whenFalse.value scope
  | .add left right => do
      let leftValue ← left.value scope
      let rightValue ← right.value scope
      Probe.ofExcept (leftValue.add rightValue)

def valuesOf (scope : Scope) : List (Term World) → Probe World (List Value)
  | [] => pure []
  | term :: terms => do
      let first ← term.value scope
      return first :: (← valuesOf scope terms)
end

def holds (scope : Scope) (term : Term World) : Probe World Bool := do
  Probe.ofExcept (← term.value scope).condition

/-! ## Reads and calls

A target that is nothing but a variable stands for the entity; any other one is evaluated. -/

-- Every law below opens `value`. Its equations are made here, and no law waits for another.
attribute [local simp] value

theorem value_member_var (scope : Scope) (symbol : Variable) (name : String) :
    (Term.member (.var symbol) name : Term World).value scope = (do
      scope.expect symbol
      Probe.readMember scope.entity name) := by
  simp [symbol?]

theorem value_member (scope : Scope) {target : Term World} (name : String)
    (compound : target.symbol? = none) :
    (Term.member target name).value scope =
      (do Probe.memberOf (← target.value scope) name) := by
  simp [compound]

theorem value_call_var (scope : Scope) (symbol : Variable) (method : String)
    (arguments : List (Term World)) :
    (Term.call (.var symbol) method arguments).value scope = (do
      let values ← valuesOf scope arguments
      scope.expect symbol
      Probe.callMethod scope.entity method values) := by
  simp [symbol?]

theorem value_call (scope : Scope) {target : Term World} (method : String)
    (arguments : List (Term World)) (compound : target.symbol? = none) :
    (Term.call target method arguments).value scope = (do
      let values ← valuesOf scope arguments
      Probe.callOn (← target.value scope) method values) := by
  simp [compound]

/-! ## Conditions

The value of a condition is the truth value of what it asks. The laws are about positions where a
value is expected, and `holds_of_value` takes them to those where a condition is. -/

variable (scope : Scope)

theorem holds_of_value {term : Term World} {verdict : Probe World Bool}
    (equal : term.value scope = Value.bool <$> verdict) : term.holds scope = verdict := by
  unfold holds
  rw [equal]
  simp only [map_eq_pure_bind, bind_assoc, pure_bind, Value.condition_bool, Probe.ofExcept_ok,
    bind_pure]

theorem value_compare (left : Term World) (comparison : Comparison) (right : Term World) :
    (Term.compare left comparison right).value scope = Value.bool <$> (do
      let leftValue ← left.value scope
      let rightValue ← right.value scope
      Probe.ofExcept (comparison.apply leftValue rightValue)) := by
  simp only [value, map_eq_pure_bind, bind_assoc]

theorem holds_compare (left : Term World) (comparison : Comparison) (right : Term World) :
    (Term.compare left comparison right).holds scope = (do
      let leftValue ← left.value scope
      let rightValue ← right.value scope
      Probe.ofExcept (comparison.apply leftValue rightValue)) :=
  holds_of_value scope (value_compare scope left comparison right)

theorem value_test (subject : Term World) (operator : String) (operand : Option Value)
    (check : ValueTest World) :
    (Term.test subject operator operand check).value scope = Value.bool <$> (do
      let subjectValue ← subject.value scope
      Probe.touch (.test check.identity)
      check.run subjectValue) := by
  simp only [value, map_eq_pure_bind, bind_assoc]

theorem holds_test (subject : Term World) (operator : String) (operand : Option Value)
    (check : ValueTest World) :
    (Term.test subject operator operand check).holds scope = (do
      let subjectValue ← subject.value scope
      Probe.touch (.test check.identity)
      check.run subjectValue) :=
  holds_of_value scope (value_test scope subject operator operand check)

theorem value_custom (symbol : Variable) (label : String) (check : EntityTest World) :
    (Term.custom symbol label check).value scope = Value.bool <$> (do
      scope.expect symbol
      Probe.touch (.test check.identity)
      check.run scope.entity) := by
  simp only [value, map_eq_pure_bind, bind_assoc]

theorem value_and (left right : Term World) :
    (Term.and left right).value scope = Value.bool <$> (do
      if ← left.holds scope then right.holds scope else return false) := by
  simp only [value, holds, map_eq_pure_bind, bind_assoc]
  congr 1
  funext leftValue
  congr 1
  funext verdict
  cases verdict <;> simp

theorem holds_and (left right : Term World) :
    (Term.and left right).holds scope = (do
      if ← left.holds scope then right.holds scope else return false) :=
  holds_of_value scope (value_and scope left right)

theorem value_or (left right : Term World) :
    (Term.or left right).value scope = Value.bool <$> (do
      if ← left.holds scope then return true else right.holds scope) := by
  simp only [value, holds, map_eq_pure_bind, bind_assoc]
  congr 1
  funext leftValue
  congr 1
  funext verdict
  cases verdict <;> simp

theorem holds_or (left right : Term World) :
    (Term.or left right).holds scope = (do
      if ← left.holds scope then return true else right.holds scope) :=
  holds_of_value scope (value_or scope left right)

theorem value_not (operand : Term World) :
    (Term.not operand).value scope = Value.bool <$> (do return !(← operand.holds scope)) := by
  simp only [value, holds, map_eq_pure_bind, bind_assoc, pure_bind]

theorem holds_not (operand : Term World) :
    (Term.not operand).holds scope = (do return !(← operand.holds scope)) :=
  holds_of_value scope (value_not scope operand)

theorem value_conditional (condition whenTrue whenFalse : Term World) :
    (Term.conditional condition whenTrue whenFalse).value scope = (do
      if ← condition.holds scope then whenTrue.value scope else whenFalse.value scope) := by
  simp only [value, holds, bind_assoc]

end Term

end Criteria

import Criteria.Term.Operation

/-!
Compilation of terms into closures.

The tree is walked once, ahead of any entity. Each term becomes a pair of closures that capture the
closures of its parts, one for a position where a condition is expected and one for a position
where a value is. What the bound variable alone decides, such as whether a variable is foreign, is
decided while compiling.
-/

namespace Criteria

structure Code (World : Type) where
  condition : Record → Probe World Bool
  value : Record → Probe World Value

namespace Code

variable {World : Type}

def ofCondition (condition : Record → Probe World Bool) : Code World where
  condition := condition
  value entity := do return .bool (← condition entity)

def ofValue (value : Record → Probe World Value) : Code World where
  condition entity := do Probe.ofExcept (← value entity).condition
  value := value

def failing (failure : Failure) : Code World where
  condition _ := Probe.fail failure
  value _ := Probe.fail failure

def runAll (entity : Record) : List (Code World) → Probe World (List Value)
  | [] => pure []
  | code :: codes => do
      let first ← code.value entity
      return first :: (← runAll entity codes)

end Code

namespace Term

variable {World : Type} [Records World]

/-- Whether a term is nothing but the bound variable, so that it can be replaced by the entity. -/
def isBound (bound : Variable) (term : Term World) : Bool :=
  match term.symbol? with
  | some symbol => symbol.same bound
  | none => false

def variableFailure (bound symbol : Variable) : Failure :=
  if symbol.same bound then .bareVariable symbol.name else .foreignVariable bound symbol

def literalCode : Value → Code World
  | .bool value => ⟨fun _ => pure value, fun _ => pure (.bool value)⟩
  | value => .ofValue fun _ => pure value

mutual
def compile (bound : Variable) : Term World → Code World
  | .var symbol => .failing (variableFailure bound symbol)
  | .literal value => literalCode value
  | .member target name =>
      if target.isBound bound then .ofValue fun entity => Probe.readMember entity name
      else
        let code := target.compile bound
        .ofValue fun entity => do Probe.memberOf (← code.value entity) name
  | .call target method arguments =>
      let codes := compileAll bound arguments
      if target.isBound bound then
        .ofValue fun entity => do Probe.callMethod entity method (← Code.runAll entity codes)
      else
        let code := target.compile bound
        .ofValue fun entity => do
          let values ← Code.runAll entity codes
          Probe.callOn (← code.value entity) method values
  | .compare left comparison right =>
      let leftCode := left.compile bound
      let rightCode := right.compile bound
      .ofCondition fun entity => do
        let leftValue ← leftCode.value entity
        let rightValue ← rightCode.value entity
        Probe.ofExcept (comparison.apply leftValue rightValue)
  | .test subject _ _ check =>
      let code := subject.compile bound
      .ofCondition fun entity => do
        let subjectValue ← code.value entity
        Probe.touch (.test check.identity)
        check.run subjectValue
  | .custom symbol _ check =>
      if symbol.same bound then
        .ofCondition fun entity => do
          Probe.touch (.test check.identity)
          check.run entity
      else .failing (.foreignVariable bound symbol)
  | .and left right =>
      let leftCode := left.compile bound
      let rightCode := right.compile bound
      .ofCondition fun entity => do
        if ← leftCode.condition entity then rightCode.condition entity else return false
  | .or left right =>
      let leftCode := left.compile bound
      let rightCode := right.compile bound
      .ofCondition fun entity => do
        if ← leftCode.condition entity then return true else rightCode.condition entity
  | .not operand =>
      let code := operand.compile bound
      .ofCondition fun entity => do return !(← code.condition entity)
  | .conditional condition whenTrue whenFalse =>
      let conditionCode := condition.compile bound
      let trueCode := whenTrue.compile bound
      let falseCode := whenFalse.compile bound
      .ofValue fun entity => do
        if ← conditionCode.condition entity then trueCode.value entity
        else falseCode.value entity
  | .add left right =>
      let leftCode := left.compile bound
      let rightCode := right.compile bound
      .ofValue fun entity => do
        let leftValue ← leftCode.value entity
        let rightValue ← rightCode.value entity
        Probe.ofExcept (leftValue.add rightValue)

def compileAll (bound : Variable) : List (Term World) → List (Code World)
  | [] => []
  | term :: terms => term.compile bound :: compileAll bound terms
end

end Term

end Criteria

import Criteria.Criterion
import Criteria.Value.Order

/-!
Sample checks: opaque tests of values and of entities, for trying out criteria. A check may carry
tags, outermost first, that tell it from other checks in a record of what was run.
-/

namespace Criteria.Sample

inductive ValueQuestion where
  | equals (value : Value)
  | ofKind (kind : String)

inductive EntityQuestion where
  | memberIs (name : String) (value : Value)
  | failIf (name : String) (value : Value)

inductive Check (Question : Type) where
  | always (verdict : Bool)
  | failing (source reason : String)
  | asking (question : Question)
  | tagged (tag : String) (check : Check Question)

namespace ValueQuestion

def answer : ValueQuestion → Value → Bool
  | .equals value, subject => value.equal subject
  | .ofKind kind, subject => subject.kind == kind

end ValueQuestion

namespace EntityQuestion

variable {World : Type} [Records World]

def matching (entity : Record) (name : String) (value : Value) : Probe World (Option Value) := do
  return (← Probe.askMember entity name).filter (·.equal value)

def ask (entity : Record) : EntityQuestion → Probe World Bool
  | .memberIs name value => do return (← matching entity name value).isSome
  | .failIf name value => do
      match ← matching entity name value with
      | some found => Probe.fail (.leaf "fail_if" found.text)
      | none => return true

end EntityQuestion

namespace Check

variable {World Question : Type}

def run (ask : Question → Probe World Bool) : Check Question → Probe World Bool
  | .always verdict => pure verdict
  | .failing source reason => Probe.fail (.leaf source reason)
  | .asking question => ask question
  | .tagged _ check => check.run ask

def tags : Check Question → List String
  | .tagged tag check => tag :: check.tags
  | _ => []

def onValue (check : Check ValueQuestion) (subject : Value) : Probe World Bool :=
  check.run fun question => pure (question.answer subject)

def onEntity [Records World] (check : Check EntityQuestion) (entity : Record) :
    Probe World Bool :=
  check.run fun question => question.ask entity

end Check

end Criteria.Sample

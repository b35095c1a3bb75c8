import Criteria.Value.Text
import Criteria.Variable

/-!
Failures of an evaluation and refusals to build a criterion, each with its wording.
-/

namespace Criteria

inductive Failure where
  | unknownMember (member : String)
  | unknownMethod (method : String)
  | nullAccess (member : String)
  | notARecord (member : String) (found : Value)
  | notBoolean (found : Value)
  | incomparable (left right : Value)
  | arithmetic (left right : Value)
  | bareVariable (name : String)
  | foreignVariable (expected found : Variable)
  | leaf (source reason : String)

namespace Failure

def kind : Failure → String
  | .unknownMember _ => "UnknownMember"
  | .unknownMethod _ => "UnknownMethod"
  | .nullAccess _ => "NullAccess"
  | .notARecord _ _ => "NotARecord"
  | .notBoolean _ => "NotBoolean"
  | .incomparable _ _ => "Incomparable"
  | .arithmetic _ _ => "Arithmetic"
  | .bareVariable _ => "BareVariable"
  | .foreignVariable _ _ => "ForeignVariable"
  | .leaf _ _ => "Leaf"

def message : Failure → String
  | .unknownMember member => "unknown member `" ++ member ++ "`"
  | .unknownMethod method => "unknown method `" ++ method ++ "`"
  | .nullAccess member => "cannot access `" ++ member ++ "` on a missing value"
  | .notARecord member found => "cannot access `" ++ member ++ "` on " ++ found.describe
  | .notBoolean found => "expected a boolean, found " ++ found.describe
  | .incomparable left right =>
      "cannot compare " ++ left.describe ++ " with " ++ right.describe
  | .arithmetic left right => "cannot add " ++ left.describe ++ " and " ++ right.describe
  | .bareVariable name => "free variable `" ++ name ++ "` cannot be used as a value"
  | .foreignVariable expected found =>
      "variable `" ++ found.label ++ "` is not bound (evaluating `" ++ expected.label ++ "`)"
  | .leaf source reason => source ++ ": " ++ reason

end Failure

inductive Refusal where
  | invalidArgument (reason : String)
  | unboundVariable (expected found : Variable)

namespace Refusal

def kind : Refusal → String
  | .invalidArgument _ => "InvalidArgument"
  | .unboundVariable _ _ => "UnboundVariable"

def message : Refusal → String
  | .invalidArgument reason => "Invalid argument: " ++ reason
  | .unboundVariable expected found =>
      "Unbound variable: tree is bound to `" ++ expected.name ++ "` but references `" ++
        found.name ++ "`"

end Refusal

end Criteria

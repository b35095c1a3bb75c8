import Criteria.Term
import Criteria.Value.Order

/-!
Structural equality of terms. Literals must agree in kind as well as in value, and opaque tests are
equal only if they are the same test. Variables are compared by identity.
-/

namespace Criteria

namespace Term

variable {World : Type}

def sameLiteral (left right : Value) : Bool :=
  left.equal right && left.kind == right.kind

def sameOperand : Option Value → Option Value → Bool
  | none, none => true
  | some left, some right => left.equal right
  | _, _ => false

mutual
def same : Term World → Term World → Bool
  | .var symbol, other =>
      match other with
      | .var found => symbol.same found
      | _ => false
  | .literal value, other =>
      match other with
      | .literal found => sameLiteral value found
      | _ => false
  | .member target name, other =>
      match other with
      | .member target' name' => name == name' && target.same target'
      | _ => false
  | .call target method arguments, other =>
      match other with
      | .call target' method' arguments' =>
          method == method' && target.same target' && sameLists arguments arguments'
      | _ => false
  | .compare left comparison right, other =>
      match other with
      | .compare left' comparison' right' =>
          comparison == comparison' && left.same left' && right.same right'
      | _ => false
  | .test subject operator operand check, other =>
      match other with
      | .test subject' operator' operand' check' =>
          operator == operator' && sameOperand operand operand' &&
            check.identity == check'.identity && subject.same subject'
      | _ => false
  | .custom symbol label check, other =>
      match other with
      | .custom symbol' label' check' =>
          symbol.same symbol' && label == label' && check.identity == check'.identity
      | _ => false
  | .and left right, other =>
      match other with
      | .and left' right' => left.same left' && right.same right'
      | _ => false
  | .or left right, other =>
      match other with
      | .or left' right' => left.same left' && right.same right'
      | _ => false
  | .not operand, other =>
      match other with
      | .not operand' => operand.same operand'
      | _ => false
  | .conditional condition whenTrue whenFalse, other =>
      match other with
      | .conditional condition' whenTrue' whenFalse' =>
          condition.same condition' && whenTrue.same whenTrue' && whenFalse.same whenFalse'
      | _ => false
  | .add left right, other =>
      match other with
      | .add left' right' => left.same left' && right.same right'
      | _ => false

def sameLists : List (Term World) → List (Term World) → Bool
  | [], others => others.isEmpty
  | term :: terms, others =>
      match others with
      | other :: rest => term.same other && sameLists terms rest
      | [] => false
end

end Term

end Criteria

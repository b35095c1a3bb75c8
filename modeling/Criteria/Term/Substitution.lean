import Criteria.Term

/-!
Substitution of one variable for another. This is how terms that were built apart come to speak of
the same entity: each is moved to one shared variable.
-/

namespace Criteria

namespace Variable

def renamed (symbol old new : Variable) : Variable :=
  if symbol.same old then new else symbol

end Variable

namespace Term

variable {World : Type}

mutual
def rebind (old new : Variable) : Term World → Term World
  | .var symbol => .var (symbol.renamed old new)
  | .literal value => .literal value
  | .member target name => .member (target.rebind old new) name
  | .call target method arguments =>
      .call (target.rebind old new) method (rebindAll old new arguments)
  | .compare left comparison right =>
      .compare (left.rebind old new) comparison (right.rebind old new)
  | .test subject operator operand check =>
      .test (subject.rebind old new) operator operand check
  | .custom symbol label check => .custom (symbol.renamed old new) label check
  | .and left right => .and (left.rebind old new) (right.rebind old new)
  | .or left right => .or (left.rebind old new) (right.rebind old new)
  | .not operand => .not (operand.rebind old new)
  | .conditional condition whenTrue whenFalse =>
      .conditional (condition.rebind old new) (whenTrue.rebind old new)
        (whenFalse.rebind old new)
  | .add left right => .add (left.rebind old new) (right.rebind old new)

def rebindAll (old new : Variable) : List (Term World) → List (Term World)
  | [] => []
  | term :: terms => term.rebind old new :: rebindAll old new terms
end

def substitute (old new : Variable) (term : Term World) : Term World :=
  if old.same new || !term.mentions old then term else term.rebind old new

end Term

end Criteria

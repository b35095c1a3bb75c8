import Criteria.Path

/-!
The written form of a path: steps separated by points, and the arguments of a call as the text of
their values.
-/

namespace Criteria

namespace PathStep

def characters : PathStep → List Char
  | .member name => name.toList
  | .call method arguments =>
      method.toList ++ '(' :: Value.separated (arguments.map Value.characters) ++ [')']

end PathStep

namespace Path

def charactersOfSteps : List PathStep → List Char
  | [] => []
  | [last] => last.characters
  | first :: second :: rest => first.characters ++ '.' :: charactersOfSteps (second :: rest)

def text (path : Path) : String :=
  String.ofList (charactersOfSteps path.steps)

end Path

end Criteria

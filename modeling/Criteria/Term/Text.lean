import Criteria.Term

/-!
Two written forms of terms. `explain` renders a term for readers, without evaluating anything;
`inspect` shows its structure for debugging.
-/

namespace Criteria

namespace Term

variable {World : Type}

/-- A conditional that is an operand of a sum needs parentheses, or its last part would swallow
the rest of the sum. -/
def grouped (term : Term World) (text : String) : String :=
  if term.isConditional then "(" ++ text ++ ")" else text

mutual
def explain : Term World → String
  | .var symbol => symbol.name
  | .literal value => value.text
  | .member target name => target.explain ++ "." ++ name
  | .call target method arguments =>
      target.explain ++ "." ++ method ++ "(" ++ ", ".intercalate (explainAll arguments) ++ ")"
  | .compare left comparison right =>
      left.explain ++ " " ++ comparison.symbol ++ " " ++ right.explain
  | .test subject operator operand _ =>
      subject.explain ++ " " ++ operator ++
        match operand with
        | some operand => " " ++ operand.text
        | none => ""
  | .custom symbol label _ => label ++ "(" ++ symbol.name ++ ")"
  | .and left right => "(" ++ left.explain ++ ") AND (" ++ right.explain ++ ")"
  | .or left right => "(" ++ left.explain ++ ") OR (" ++ right.explain ++ ")"
  | .not operand => "NOT (" ++ operand.explain ++ ")"
  | .conditional condition whenTrue whenFalse =>
      "IF (" ++ condition.explain ++ ") THEN " ++ whenTrue.explain ++ " ELSE " ++
        whenFalse.explain
  | .add left right => left.grouped left.explain ++ " + " ++ right.grouped right.explain

def explainAll : List (Term World) → List String
  | [] => []
  | term :: terms => term.explain :: explainAll terms
end

def inspectOperand : Option Value → String
  | none => "None"
  | some value => "Some(" ++ value.inspect ++ ")"

mutual
def inspect : Term World → String
  | .var symbol => "Var(" ++ symbol.label ++ ")"
  | .literal value => "Literal(" ++ value.inspect ++ ")"
  | .member target name =>
      "Member \x7b target: " ++ target.inspect ++ ", name: " ++ Text.quote name ++ " \x7d"
  | .call target method arguments =>
      "Call \x7b target: " ++ target.inspect ++ ", method: " ++ Text.quote method ++ ", args: [" ++
        ", ".intercalate (inspectAll arguments) ++ "] \x7d"
  | .compare left comparison right =>
      "Leaf(Compare \x7b left: " ++ left.inspect ++ ", op: " ++ comparison.inspect ++ ", right: " ++
        right.inspect ++ " \x7d)"
  | .test subject operator operand _ =>
      "Leaf(Test \x7b subject: " ++ subject.inspect ++ ", operator: " ++ Text.quote operator ++
        ", operand: " ++ inspectOperand operand ++ ", .. \x7d)"
  | .custom symbol label _ =>
      "Leaf(Custom \x7b var: " ++ symbol.label ++ ", label: " ++ Text.quote label ++ ", .. \x7d)"
  | .and left right => "And(" ++ left.inspect ++ ", " ++ right.inspect ++ ")"
  | .or left right => "Or(" ++ left.inspect ++ ", " ++ right.inspect ++ ")"
  | .not operand => "Not(" ++ operand.inspect ++ ")"
  | .conditional condition whenTrue whenFalse =>
      "Conditional \x7b test: " ++ condition.inspect ++ ", if_true: " ++ whenTrue.inspect ++
        ", if_false: " ++ whenFalse.inspect ++ " \x7d"
  | .add left right => "Add(" ++ left.inspect ++ ", " ++ right.inspect ++ ")"

def inspectAll : List (Term World) → List String
  | [] => []
  | term :: terms => term.inspect :: inspectAll terms
end

end Term

end Criteria

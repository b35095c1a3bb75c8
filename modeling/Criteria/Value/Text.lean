import Criteria.Number.FloatText
import Criteria.Text.Quoted
import Criteria.Value

/-!
Two written forms of values. `text` is for readers: conditions, explanations and messages show it.
`inspect` names the kind of every value and is for debugging.
-/

namespace Criteria

namespace Value

def separated : List (List Char) → List Char
  | [] => []
  | [last] => last
  | first :: second :: rest => first ++ ',' :: ' ' :: separated (second :: rest)

mutual
def characters : Value → List Char
  | .none => ['n', 'o', 'n', 'e']
  | .bool true => ['t', 'r', 'u', 'e']
  | .bool false => ['f', 'a', 'l', 's', 'e']
  | .int value => Number.integer value.toInt
  | .float value => Number.floatCharacters value
  | .string text => Text.quoted text.toList
  | .date day => ['d', 'a', 't', 'e', '('] ++ Number.integer day.toInt ++ [')']
  | .datetime millisecond =>
      ['d', 'a', 't', 'e', 't', 'i', 'm', 'e', '('] ++ Number.integer millisecond.toInt ++ [')']
  | .list items => '[' :: separated (charactersOfAll items) ++ [']']
  | .record _ => ['\x7b', 'r', 'e', 'c', 'o', 'r', 'd', '\x7d']

def charactersOfAll : List Value → List (List Char)
  | [] => []
  | item :: items => item.characters :: charactersOfAll items
end

def text (value : Value) : String :=
  String.ofList value.characters

/-- The kind in front of the text, where the text does not already tell it. -/
def describe : Value → String
  | .none => "none"
  | .record _ => "record"
  | value => value.kind ++ " " ++ value.text

mutual
def inspect : Value → String
  | .none => "None"
  | .bool value => "Bool(" ++ toString value ++ ")"
  | .int value => "I64(" ++ String.ofList (Number.integer value.toInt) ++ ")"
  | .float value => "F64(" ++ String.ofList (Number.floatCharacters value) ++ ")"
  | .string text => "String(" ++ Text.quote text ++ ")"
  | .date day => "Date(" ++ String.ofList (Number.integer day.toInt) ++ ")"
  | .datetime millisecond =>
      "DateTime(" ++ String.ofList (Number.integer millisecond.toInt) ++ ")"
  | .list items => "List([" ++ ", ".intercalate (inspectAll items) ++ "])"
  | .record _ => "Record(..)"

def inspectAll : List Value → List String
  | [] => []
  | item :: items => item.inspect :: inspectAll items
end

example : (Value.list [.int 1, .none, .bool true]).text = "[1, none, true]" := by cbv

end Value

end Criteria

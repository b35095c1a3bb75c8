import Criteria.Number.FloatReading
import Criteria.Path
import Criteria.Text.Blank
import Criteria.Text.Split

/-!
Reading a path from text. Steps are separated by points; a step that ends in parentheses is a call,
whose arguments are separated by commas. Points and commas inside parentheses or quotes separate
nothing. Blank steps and blank arguments are dropped, and no text is refused.
-/

namespace Criteria

namespace Path

def beforeLast (mark : Char) (characters : List Char) : Option (List Char) :=
  match characters.reverse with
  | last :: before => if last = mark then some before.reverse else none
  | [] => none

def cutAt (mark : Char) (characters : List Char) : Option (List Char × List Char) :=
  match characters.dropWhile (· ≠ mark) with
  | _ :: rest => some (characters.takeWhile (· ≠ mark), rest)
  | [] => none

/-- The text between two quotes, which must be two characters and not one. -/
def between (quote : Char) : List Char → Option (List Char)
  | first :: rest => if first = quote then beforeLast quote rest else none
  | [] => none

def pieces (separator : Char) (characters : List Char) : List (List Char) :=
  ((Text.splitOutside separator characters).map Text.trim).filter (!·.isEmpty)

def readWord (characters : List Char) : Value :=
  let text := String.ofList characters
  if text = "true" then .bool true
  else if text = "false" then .bool false
  else if text = "none" then .none
  else
    match Number.readInt64 characters with
    | some value => .int value
    | none =>
        match Number.readFloat characters with
        | some value => .float value
        | none => .string text

/-- A literal. What is neither quoted nor a word or number of its own is taken as a string. -/
def readLiteral (characters : List Char) : Value :=
  match between '"' characters with
  | some inner => .string (String.ofList inner)
  | none =>
      match between '\'' characters with
      | some inner => .string (String.ofList inner)
      | none => readWord characters

def readStep (characters : List Char) : PathStep :=
  match (beforeLast ')' characters).bind (cutAt '(') with
  | some (method, arguments) =>
      .call (String.ofList (Text.trim method)) ((pieces ',' arguments).map readLiteral)
  | none => .member (String.ofList characters)

def parse (text : String) : Path :=
  ⟨(pieces '.' text.toList).map readStep⟩

end Path

end Criteria

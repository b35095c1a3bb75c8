/-!
Splitting text at a separator, but not inside quotes or parentheses. Quotes are single or double
and close at the next quote of the same kind; a closing parenthesis without an opening one is
ignored. Unbalanced text is split as far as it goes.
-/

namespace Criteria.Text

structure Nesting where
  quote : Option Char
  depth : Nat
deriving DecidableEq

namespace Nesting

def outside : Nesting := ⟨none, 0⟩

def advance (nesting : Nesting) (character : Char) : Nesting :=
  match nesting.quote with
  | some quote => if character = quote then ⟨none, nesting.depth⟩ else nesting
  | none =>
      if character = '"' ∨ character = '\'' then ⟨some character, nesting.depth⟩
      else if character = '(' then ⟨none, nesting.depth + 1⟩
      else if character = ')' then ⟨none, nesting.depth - 1⟩
      else nesting

def after (nesting : Nesting) (characters : List Char) : Nesting :=
  characters.foldl advance nesting

end Nesting

def consPart (character : Char) : List (List Char) → List (List Char)
  | [] => [[character]]
  | part :: parts => (character :: part) :: parts

def splitWithin (separator : Char) (nesting : Nesting) : List Char → List (List Char)
  | [] => [[]]
  | character :: rest =>
      if character = separator ∧ nesting = .outside then
        [] :: splitWithin separator nesting rest
      else consPart character (splitWithin separator (nesting.advance character) rest)

def splitOutside (separator : Char) (characters : List Char) : List (List Char) :=
  splitWithin separator .outside characters

example : splitOutside '.' ['a', '(', '.', ')', '.', 'b'] = [['a', '(', '.', ')'], ['b']] := by
  decide

example : splitOutside ',' [] = [[]] := rfl

end Criteria.Text

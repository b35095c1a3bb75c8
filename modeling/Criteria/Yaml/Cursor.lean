import Criteria.Yaml.Character

/-!
Positions in the text of a YAML document. Columns matter, since the indentation of a line is part of
its meaning, and so do lines, since a key that is not announced has to be on a single one.
-/

namespace Criteria.Yaml

structure Position where
  index : Nat
  line : Nat
  column : Nat
deriving DecidableEq

namespace Position

def start : Position := ⟨0, 0, 0⟩

def after (position : Position) (character : Char) : Position :=
  if isBreak character then ⟨position.index + 1, position.line + 1, 0⟩
  else ⟨position.index + 1, position.line, position.column + 1⟩

def advance (position : Position) (count : Nat) : Position :=
  ⟨position.index + count, position.line, position.column + count⟩

end Position

/-- A position, and the characters from there on. -/
structure Cursor where
  position : Position
  rest : List Char

abbrev Reading (Answer : Type) := Option (Answer × Cursor)

namespace Cursor

def column (cursor : Cursor) : Nat :=
  cursor.position.column

def advance (cursor : Cursor) (count : Nat) : Cursor :=
  ⟨cursor.position.advance count, cursor.rest.drop count⟩

def skipWhile (cursor : Cursor) (test : Char → Bool) : Cursor :=
  cursor.advance (cursor.rest.takeWhile test).length

def takeWhile (cursor : Cursor) (test : Char → Bool) : List Char × Cursor :=
  let taken := cursor.rest.takeWhile test
  (taken, cursor.advance taken.length)

def expect (cursor : Cursor) (character : Char) : Option Cursor :=
  if cursor.rest.head? = some character then some (cursor.advance 1) else none

/-- Past blanks, a comment and a line end. Nothing else may be on the rest of the line. -/
def finishLine (cursor : Cursor) : Option Cursor :=
  let blanks := cursor.skipWhile isBlank
  let comment := if blanks.rest.head? = some '#' then blanks.skipWhile (!isBreak ·) else blanks
  match comment.rest with
  | [] => some comment
  | character :: rest =>
      if isBreak character then some ⟨comment.position.after character, rest⟩ else none

end Cursor

end Criteria.Yaml

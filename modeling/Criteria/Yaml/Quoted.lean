import Criteria.Text.Escape
import Criteria.Yaml.Gap

/-!
Scalars in quotes. Between single quotes, two quotes in a row stand for one; between double quotes
there are escapes. A mark that separates documents may not stand at the start of a line.
-/

namespace Criteria.Yaml

def escapeMeaning : Char → Text.EscapeMeaning
  | '0' => .character '\x00'
  | 'a' => .character '\x07'
  | 'b' => .character '\x08'
  | 't' | '\t' => .character '\t'
  | 'n' => .character '\n'
  | 'v' => .character '\x0b'
  | 'f' => .character '\x0c'
  | 'r' => .character '\r'
  | 'e' => .character '\x1b'
  | ' ' => .character ' '
  | '"' => .character '"'
  | '/' => .character '/'
  | '\\' => .character '\\'
  | 'N' => .character '\u0085'
  | '_' => .character '\u00a0'
  | 'L' => .character '\u2028'
  | 'P' => .character '\u2029'
  | 'x' => .codePoint 2
  | 'u' => .codePoint 4
  | 'U' => .codePoint 8
  | _ => .unknown

/-! What was read comes the latest character first, and the gap since then apart. -/

def isForbiddenSeparator (position : Position) (characters : List Char) : Bool :=
  position.column == 0 && startsWithSeparator characters

def singleQuoted (text : List Char) (gap : Gap) (position : Position) :
    List Char → Reading (List Char)
  | [] => none
  | '\'' :: '\'' :: rest =>
      singleQuoted ('\'' :: gap.backwards ++ text) .none (position.advance 2) rest
  | '\'' :: rest => some (gap.backwards ++ text, ⟨position.advance 1, rest⟩)
  | character :: rest =>
      let next := position.after character
      if isBlank character || isBreak character then
        singleQuoted text (gap.add character) next rest
      else if isForbiddenSeparator position (character :: rest) then none
      else singleQuoted (character :: gap.backwards ++ text) .none next rest

def doubleQuoted (text : List Char) (gap : Gap) (escape : Text.EscapeState)
    (position : Position) : List Char → Reading (List Char)
  | [] => none
  | character :: rest =>
      let next := position.after character
      if escape = .outside ∧ (isBlank character || isBreak character) then
        doubleQuoted text (gap.add character) .outside next rest
      else if isForbiddenSeparator position (character :: rest) then none
      else
        let joined := gap.backwards ++ text
        if escape = .outside ∧ character = '"' then some (joined, ⟨next, rest⟩)
        else if escape = .marked ∧ isBreak character then
          doubleQuoted joined .escaped .outside next rest
        else
          match escape.step escapeMeaning character with
          | none => none
          | some (after, none) => doubleQuoted joined .none after next rest
          | some (after, some read) => doubleQuoted (read :: joined) .none after next rest

def quotedScalar (cursor : Cursor) : Reading (List Char) :=
  let position := cursor.position.advance 1
  match cursor.rest with
  | '\'' :: rest => singleQuoted [] .none position rest
  | '"' :: rest => doubleQuoted [] .none .outside position rest
  | _ => none

end Criteria.Yaml

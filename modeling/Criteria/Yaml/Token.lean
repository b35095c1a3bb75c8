import Criteria.Yaml.Tag

/-!
Tokens of a YAML document: the marks between its scalars, whether they are written, as in the flow
style, or follow from indentation.
-/

namespace Criteria.Yaml

/-- How a scalar is written. Only what may matter to a reader is kept apart. -/
inductive ScalarStyle where
  | plain
  | literal
  | other
deriving DecidableEq

inductive Token where
  | version (major minor : Nat)
  | tagHandle (handle : String) (lead : Tag)
  | documentStart
  | documentEnd
  | blockSequenceStart
  | blockMappingStart
  | blockEnd
  | flowSequenceStart
  | flowSequenceEnd
  | flowMappingStart
  | flowMappingEnd
  | blockEntry
  | flowEntry
  | key
  | value
  | alias (name : String)
  | anchor (name : String)
  | tag (mark : TagMark)
  | scalar (style : ScalarStyle) (text : String)
deriving DecidableEq

/-! ## Directives -/

def versionNumber (cursor : Cursor) : Reading Nat :=
  let (digits, after) := cursor.takeWhile Char.isDigit
  if 9 < digits.length then none
  else (Number.readDigits 10 digits).map fun number => (number, after)

def versionDirective (cursor : Cursor) : Option (Token × Cursor) := do
  let (major, after) ← versionNumber (cursor.skipWhile isBlank)
  let after ← after.expect '.'
  let (minor, after) ← versionNumber after
  return (.version major minor, after)

/-- The text that a handle stands for goes up to the next blank. -/
def tagDirective (cursor : Cursor) : Option (Token × Cursor) := do
  let ((handle, isClosed), after) ← tagHandle (cursor.skipWhile isBlank)
  if !isClosed && handle.length != 1 then none
  else if !after.rest.head?.any isBlank then none
  else
    let start := after.skipWhile isBlank
    let (lead, after) ← tagText true [] start
    if after.position = start.position || !endsWord after.rest then none
    else return (.tagHandle (String.ofList handle) lead, after)

def directive (cursor : Cursor) : Option (Token × Cursor) := do
  let (name, after) := (cursor.advance 1).takeWhile isNameCharacter
  if !endsWord after.rest then none
  else
    let (token, after) ←
      if name = ['Y', 'A', 'M', 'L'] then versionDirective after
      else if name = ['T', 'A', 'G'] then tagDirective after
      else none
    let after ← after.finishLine
    return (token, after)

/-! ## Anchors -/

def anchorName (cursor : Cursor) : Reading String :=
  let (name, after) := (cursor.advance 1).takeWhile isNameCharacter
  let isEnded := endsWord after.rest ||
    after.rest.head?.any ['?', ':', ',', ']', '\x7d', '%', '@', '\x60'].contains
  if name.isEmpty || !isEnded then none else some (String.ofList name, after)

end Criteria.Yaml

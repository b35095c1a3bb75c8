import Criteria.Yaml.Gap

/-!
Plain scalars, which have no quotes. They end where something else begins: a value, a comment, a
mark of the flow style, or a line that is not indented deeply enough.
-/

namespace Criteria.Yaml

/-- A mark that begins something else cannot begin a plain scalar. Some may, if a word goes on right
after them. -/
def beginsPlain (inFlow : Bool) : List Char → Bool
  | [] => false
  | character :: rest =>
      if character == '-' then !rest.head?.any isBlank
      else if character == '?' || character == ':' then !inFlow && !endsWord rest
      else !(isBlank character || isBreak character || isFlowMark character ||
        ['#', '&', '*', '!', '|', '>', '\'', '"', '%', '@', '\x60'].contains character)

def beginsFlowPart (character : Char) : Bool :=
  isFlowMark character || character == '?'

/-! What was read of a plain scalar comes the latest character first, with the gap since then. A gap
that has crossed the end of a line leaves the reader where a new key may start. -/

structure PlainText where
  text : List Char
  gap : Gap

def endsAfterGap (inFlow : Bool) (indent : Nat) (position : Position)
    (characters : List Char) : Bool :=
  (!inFlow && position.column < indent) || characters.head? == some '#' ||
    (position.column == 0 && startsWithSeparator characters)

def endsPlain (inFlow : Bool) (character : Char) (rest : List Char) : Bool :=
  (character == ':' && endsWord rest) || (inFlow && isFlowMark character)

/-- A plain scalar in lines that are indented by `indent` at least. A tab may not stand where such a
line is indented, and in the flow style no colon may stand right before a mark. -/
def plainScalar (inFlow : Bool) (indent : Nat) (plain : PlainText) (position : Position) :
    List Char → Reading PlainText
  | [] => some (plain, ⟨position, []⟩)
  | character :: rest =>
      let next := position.after character
      if isBlank character || isBreak character then
        if plain.gap.crossed && character == '\t' && position.column < indent then none
        else plainScalar inFlow indent ⟨plain.text, plain.gap.add character⟩ next rest
      else if plain.gap.isOpen && endsAfterGap inFlow indent position (character :: rest) then
        some (plain, ⟨position, character :: rest⟩)
      else if inFlow && character == ':' && rest.head?.any beginsFlowPart then none
      else if endsPlain inFlow character rest then some (plain, ⟨position, character :: rest⟩)
      else
        let text := character :: plain.gap.backwards ++ plain.text
        plainScalar inFlow indent ⟨text, .none⟩ next rest

end Criteria.Yaml

/-!
The characters of YAML documents, and what kinds of them there are.

A line may end in several ways. The line and the paragraph separator stay what they are, also inside
of a text; all other line ends read as a line feed.
-/

namespace Criteria.Yaml

def isAllowed (character : Char) : Bool :=
  let code := character.toNat
  character == '\t' || character == '\n' || character == '\r' || character == '\u0085' ||
    (0x20 ≤ code && code ≤ 0x7e) || (0xa0 ≤ code && code != 0xfffe && code != 0xffff)

/-- Puts line feeds for the line ends that read as such. The characters already read come first, the
latest at their head. -/
def joinLineEnds (before : List Char) : List Char → List Char
  | [] => before.reverse
  | '\r' :: '\n' :: rest => joinLineEnds ('\n' :: before) rest
  | character :: rest =>
      if character = '\r' ∨ character = '\u0085' then joinLineEnds ('\n' :: before) rest
      else joinLineEnds (character :: before) rest

example : joinLineEnds [] ['a', '\r', '\n', '\r', '\u2028'] = ['a', '\n', '\n', '\u2028'] := by
  decide

def isBreak (character : Char) : Bool :=
  character == '\n' || character == '\u2028' || character == '\u2029'

def isBlank (character : Char) : Bool :=
  character == ' ' || character == '\t'

def isNameCharacter (character : Char) : Bool :=
  character.isAlphanum || character == '_' || character == '-'

def isFlowMark (character : Char) : Bool :=
  ['[', ']', '\x7b', '\x7d', ','].contains character

def endsWord : List Char → Bool
  | [] => true
  | character :: _ => isBlank character || isBreak character

def isSeparator (mark : Char) (characters : List Char) : Bool :=
  characters.take 3 == [mark, mark, mark] && endsWord (characters.drop 3)

def startsWithSeparator (characters : List Char) : Bool :=
  isSeparator '-' characters || isSeparator '.' characters

end Criteria.Yaml

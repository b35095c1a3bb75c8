import Criteria.Yaml.Cursor

/-!
Gaps between the words of a scalar that may go on over several lines.

Blanks within a line stand for themselves. Where a line ends, the blanks around its end have no
meaning; a single line feed reads as a space, and of several in a row the first one is dropped. A
separator of lines or paragraphs is kept.
-/

namespace Criteria.Yaml

/-! The blanks and the line ends after the first one are the latest first. -/

structure Gap where
  crossed : Bool
  blanks : List Char
  lineEnd : Option Char
  moreEnds : List Char

namespace Gap

def none : Gap := ⟨false, [], .none, []⟩

def escaped : Gap := ⟨true, [], .none, []⟩

def isOpen (gap : Gap) : Bool :=
  gap.crossed || !gap.blanks.isEmpty

def add (gap : Gap) (character : Char) : Gap :=
  if isBreak character then
    if gap.crossed then { gap with moreEnds := character :: gap.moreEnds }
    else ⟨true, [], some character, gap.moreEnds⟩
  else if gap.crossed then gap
  else { gap with blanks := character :: gap.blanks }

def backwards (gap : Gap) : List Char :=
  if gap.crossed then
    match gap.lineEnd with
    | some '\n' => if gap.moreEnds.isEmpty then [' '] else gap.moreEnds
    | some separator => gap.moreEnds ++ [separator]
    | .none => gap.moreEnds
  else gap.blanks

def ofList (characters : List Char) : Gap :=
  characters.foldl add none

example : (ofList [' ', '\t']).backwards = ['\t', ' '] := by decide
example : (ofList [' ', '\n', ' ']).backwards = [' '] := by decide
example : (ofList ['\n', '\n', '\n']).backwards = ['\n', '\n'] := by decide
example : (ofList ['\u2028', '\n']).backwards = ['\n', '\u2028'] := by decide

end Gap

end Criteria.Yaml

import Criteria.Text.Blank

/-!
The mode in which a part of a pattern is read, and the flags that change it.

Blanks and comments have no meaning in a spaced pattern, though not everywhere: a flag, a name, the
character after a backslash and both halves of an operator are taken as they stand.
-/

namespace Criteria.Pattern

open Text

/-- Without Unicode, a pattern speaks of bytes and not of characters. -/
structure Mode where
  foldsCase : Bool
  isUnicode : Bool
  isSpaced : Bool
deriving DecidableEq

namespace Mode

def usual : Mode := ⟨false, true, false⟩

def withFlag (mode : Mode) (flag : Char) (value : Bool) : Mode :=
  match flag with
  | 'i' => { mode with foldsCase := value }
  | 'u' => { mode with isUnicode := value }
  | 'x' => { mode with isSpaced := value }
  | _ => mode

end Mode

/-! ## Gaps -/

def afterGap (inComment : Bool) : List Char → List Char
  | [] => []
  | character :: rest =>
      if inComment then afterGap (character != '\n') rest
      else if character == '#' then afterGap true rest
      else if isBlank character then afterGap false rest
      else character :: rest

example : afterGap false ['#', 'a', '\n', ' ', 'b'] = ['b'] := by decide

def Mode.skip (mode : Mode) (characters : List Char) : List Char :=
  if mode.isSpaced then afterGap false characters else characters

/-- The character that decides what a dash in a class means. A look ahead knows the start of a
comment but not its end, so that it sees a character of the comment. -/
def lookPast (inComment : Bool) : List Char → Option Char
  | [] => none
  | character :: rest =>
      if isBlank character then lookPast inComment rest
      else if character == '#' && !inComment then lookPast true rest
      else some character

def Mode.look (mode : Mode) (characters : List Char) : Option Char :=
  if mode.isSpaced then lookPast false characters else characters.head?

/-! ## Flags -/

structure Flags where
  mode : Mode
  beginsGroup : Bool

def isFlag (character : Char) : Bool :=
  ['-', 'i', 'm', 's', 'U', 'u', 'R', 'x'].contains character

/-- No flag comes twice. Those after the dash are switched off, and the dash is not the last. -/
def readFlags (mode : Mode) (seen : List Char) : List Char → Option (Flags × List Char)
  | [] => none
  | character :: rest =>
      if character == ':' || character == ')' then
        if seen.head? = some '-' ∨ (seen = [] ∧ character = ')') then none
        else some (⟨mode, character == ':'⟩, rest)
      else if isFlag character && !seen.contains character then
        readFlags (mode.withFlag character (!seen.contains '-')) (character :: seen) rest
      else none

example :
    (readFlags .usual [] ['i', '-', 'u', ')']).map (·.1.mode) = some ⟨true, false, false⟩ := by
  decide
example : (readFlags .usual [] ['i', '-', ')']).isNone := by decide

end Criteria.Pattern

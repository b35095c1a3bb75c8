import Criteria.Pattern.Class
import Criteria.Text.Alphanumeric

/-!
Patterns: text with repetitions, alternatives, groups and classes of characters. Only their form is
checked, since no value is ever compared with one.

A pattern is read inside of braces, so a brace never closes anything; the opening ones, which would
announce a count of repetitions, are refused.
-/

namespace Criteria.Pattern

open Text

def heightLimit : Nat := 250

/-! ## Groups -/

/-! What was read of a group: its complete alternatives, and the row of the present one. Only the
last thing of the row can be repeated, and not if it is a change of the mode. -/

structure GroupLevel where
  mode : Mode
  alternatives : Row
  row : Row
  mayRepeat : Bool

namespace GroupLevel

def start (mode : Mode) : GroupLevel := ⟨mode, .empty, .empty, false⟩

def height (level : GroupLevel) : Nat :=
  (level.alternatives.add level.row.height).height

def add (level : GroupLevel) (height : Nat) : GroupLevel :=
  { level with row := level.row.add height, mayRepeat := true }

def changeMode (level : GroupLevel) (mode : Mode) : GroupLevel :=
  { level with mode, row := level.row.add 0, mayRepeat := false }

def nextAlternative (level : GroupLevel) : GroupLevel :=
  { level with
    alternatives := level.alternatives.add level.row.height, row := .empty, mayRepeat := false }

def repeatLast (level : GroupLevel) : Option GroupLevel :=
  if level.mayRepeat then some { level with row := level.row.raiseLast } else none

end GroupLevel

/-! ## Names of groups -/

def isNameStart (character : Char) : Bool :=
  character == '_' || isAlphabetic character

def isNamePart (character : Char) : Bool :=
  ['_', '.', '[', ']'].contains character || isAlphanumeric character

def isGroupName : List Char → Bool
  | [] => false
  | first :: rest => isNameStart first && rest.all isNamePart

def readGroupName (characters : List Char) : Option (List Char × List Char) :=
  match characters.dropWhile (· != '>') with
  | [] => none
  | _ :: rest =>
      let name := characters.takeWhile (· != '>')
      if isGroupName name then some (name, rest) else none

/-! ## Reading -/

structure Reading where
  level : GroupLevel
  outer : List GroupLevel
  names : List (List Char)

namespace Reading

def start : Reading := ⟨.start .usual, [], []⟩

def openGroup (reading : Reading) (mode : Mode) : Reading :=
  { reading with level := .start mode, outer := reading.level :: reading.outer }

/-- Behind a group, the mode is the one from before it. -/
def closeGroup (reading : Reading) : Option Reading :=
  match reading.outer with
  | [] => none
  | parent :: outer =>
      some { reading with level := parent.add (reading.level.height + 1), outer }

def openNamed (reading : Reading) (characters : List Char) : Option (Reading × List Char) :=
  match readGroupName characters with
  | none => none
  | some (name, rest) =>
      if reading.names.contains name then none
      else some ({ reading.openGroup reading.level.mode with names := name :: reading.names }, rest)

def readGroup (reading : Reading) (characters : List Char) : Option (Reading × List Char) :=
  let mode := reading.level.mode
  match mode.skip characters with
  | '?' :: 'P' :: '<' :: rest => reading.openNamed rest
  | '?' :: '<' :: rest => reading.openNamed rest
  | '?' :: rest =>
      match readFlags mode [] rest with
      | none => none
      | some (flags, rest) =>
          if flags.beginsGroup then some (reading.openGroup flags.mode, rest)
          else some ({ reading with level := reading.level.changeMode flags.mode }, rest)
  | rest => some (reading.openGroup mode, rest)

def addElement (reading : Reading) (element : Element) : Option Reading :=
  if element.isAllowed reading.level.mode then
    some { reading with level := reading.level.add 0 }
  else none

def readElement (reading : Reading) (character : Char) (rest : List Char) :
    Option (Reading × List Char) :=
  match character with
  | '\\' =>
      match readEscape reading.level.mode rest with
      | none => none
      | some (element, rest) => (reading.addElement element).map (·, rest)
  | '.' => (reading.addElement .wildcard).map (·, rest)
  | '^' | '$' => (reading.addElement .anchor).map (·, rest)
  | _ => (reading.addElement (.literal character false)).map (·, rest)

def afterRepetition : List Char → List Char
  | '?' :: rest => rest
  | rest => rest

def step (limit : Nat) (reading : Reading) (character : Char) (rest : List Char) :
    Option (Reading × List Char) :=
  match character with
  | '(' => reading.readGroup rest
  | ')' => reading.closeGroup.map (·, rest)
  | '|' => some ({ reading with level := reading.level.nextAlternative }, rest)
  | '*' | '+' | '?' =>
      reading.level.repeatLast.map fun level => ({ reading with level }, afterRepetition rest)
  | '\x7b' => none
  | '[' =>
      match openClass reading.level.mode rest with
      | none => none
      | some rest =>
          (readClass reading.level.mode limit .start [] rest).map fun (height, rest) =>
            ({ reading with level := reading.level.add height }, rest)
  | _ => reading.readElement character rest

/-- Reads to the end; each step takes a character at least. -/
def run : Nat → Reading → List Char → Option Reading
  | 0, _, _ => none
  | limit + 1, reading, characters =>
      match reading.level.mode.skip characters with
      | [] => some reading
      | character :: rest =>
          match reading.step limit character rest with
          | none => none
          | some (reading, rest) => run limit reading rest

def isComplete (reading : Reading) : Bool :=
  reading.outer.isEmpty && reading.level.height ≤ heightLimit

end Reading

def isPattern (characters : List Char) : Bool :=
  (Reading.start.run (characters.length + 1) characters).any Reading.isComplete

example : isPattern ['a', '|', '[', '^', ']', ']', '*'] = true := by decide
example : isPattern ['*'] = false := by decide
example : isPattern ['(', 'a'] = false := by decide

end Criteria.Pattern

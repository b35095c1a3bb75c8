import Criteria.Pattern.Element
import Criteria.Pattern.Row

/-!
Classes of characters: single characters, ranges, named sets and other classes, all of them perhaps
combined by operators. A class with a caret at its start has all the other characters.
-/

namespace Criteria.Pattern

/-! ## Named sets -/

structure NamedSet where
  isNegated : Bool

/-- Sets with a name have some characters of ASCII, so they have bytes that are no characters if
they are negated. -/
def NamedSet.isAllowed (mode : Mode) (set : NamedSet) : Bool :=
  if mode.isUnicode then !mode.foldsCase else !set.isNegated

def isSetName (name : List Char) : Bool :=
  ["alnum", "alpha", "ascii", "blank", "cntrl", "digit", "graph", "lower", "print", "punct",
    "space", "upper", "word", "xdigit"].contains (String.ofList name)

def readSetName (isNegated : Bool) (characters : List Char) : Option (NamedSet × List Char) :=
  match characters.dropWhile (· != ':') with
  | ':' :: ']' :: rest =>
      if isSetName (characters.takeWhile (· != ':')) then some (⟨isNegated⟩, rest) else none
  | _ => none

def readNamedSet : List Char → Option (NamedSet × List Char)
  | ':' :: '^' :: rest => readSetName true rest
  | ':' :: rest => readSetName false rest
  | _ => none

/-! ## Levels of a class -/

/-! What was read of a class: `operand` is the height of what stands before the last operator, and
`row` has what stands behind it. A class is at its start as long as it only has dashes. -/

structure ClassLevel where
  operand : Option Nat
  row : Row
  atStart : Bool

namespace ClassLevel

def start : ClassLevel := ⟨none, .empty, true⟩

def height (level : ClassLevel) : Nat :=
  match level.operand with
  | none => level.row.height
  | some operand => max operand level.row.height + 1

def add (level : ClassLevel) (height : Nat) : ClassLevel :=
  { level with row := level.row.add height, atStart := false }

/-- Operators combine all that stands before them. -/
def combine (level : ClassLevel) : ClassLevel :=
  ⟨some level.height, .empty, false⟩

/-- As the first item, a closing bracket stands for itself. -/
def closesAt (level : ClassLevel) (character : Char) : Bool :=
  character == ']' && !(level.atStart && level.row.count = 0)

end ClassLevel

/-! ## Items -/

def readItem (mode : Mode) : List Char → Option (Element × List Char)
  | [] => none
  | '\\' :: rest => readEscape mode rest
  | character :: rest => some (.literal character false, rest)

def isRange : Element → Element → Bool
  | .literal low _, .literal high _ => low ≤ high
  | _, _ => false

/-- A dash makes a range of the items at its sides, but not before a closing bracket or before
another dash. -/
def readRange (mode : Mode) (characters : List Char) : Option (List Char) :=
  match readItem mode characters with
  | none => none
  | some (low, rest) =>
      if !low.isAllowedInClass mode then none
      else
        match mode.skip rest with
        | '-' :: behind =>
            if mode.look behind = some ']' ∨ mode.look behind = some '-' then some ('-' :: behind)
            else
              match readItem mode (mode.skip behind) with
              | none => none
              | some (high, rest) =>
                  if isRange low high && high.isAllowedInClass mode then some rest else none
        | rest => some rest

def ClassLevel.step (mode : Mode) (level : ClassLevel) (character : Char) (rest : List Char) :
    Option (ClassLevel × List Char) :=
  if level.atStart && character == '-' then
    if (Element.literal '-' false).isAllowedInClass mode then
      some ({ level.add 0 with atStart := true }, rest)
    else none
  else if level.atStart && character == ']' then
    if (Element.literal ']' false).isAllowedInClass mode then some (level.add 0, rest) else none
  else if ['&', '-', '~'].contains character && rest.head? = some character then
    some (level.combine, rest.tail)
  else (readRange mode (character :: rest)).map (level.add 0, ·)

/-! ## Classes -/

/-- The start of a class, behind its opening bracket. All the characters that are not in a class of
bytes cannot be told from parts of characters. -/
def openClass (mode : Mode) (characters : List Char) : Option (List Char) :=
  match mode.skip characters with
  | '^' :: rest => if mode.isUnicode then some rest else none
  | rest => some rest

/-- Reads up to the bracket that closes the outermost class, and gives the height of it. The limit
is at least the number of characters, each of which is looked at once. -/
def readClass (mode : Mode) :
    Nat → ClassLevel → List ClassLevel → List Char → Option (Nat × List Char)
  | 0, _, _, _ => none
  | limit + 1, level, outer, characters =>
      match mode.skip characters with
      | [] => none
      | character :: rest =>
          if level.closesAt character then
            match outer with
            | [] => some (level.height + 1, rest)
            | parent :: outer => readClass mode limit (parent.add (level.height + 1)) outer rest
          else if character == '[' then
            match readNamedSet rest with
            | some (set, rest) =>
                if set.isAllowed mode then readClass mode limit (level.add 0) outer rest else none
            | none =>
                match openClass mode rest with
                | none => none
                | some rest => readClass mode limit .start (level :: outer) rest
          else
            match level.step mode character rest with
            | none => none
            | some (level, rest) => readClass mode limit level outer rest

example : readClass .usual 9 .start [] ['a', '-', 'z', ']', 'b'] = some (1, ['b']) := by decide
example : readClass .usual 9 .start [] ['z', '-', 'a', ']'] = none := by decide

end Criteria.Pattern

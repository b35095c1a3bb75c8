import Criteria.Text.Escape

/-!
Texts of TOML: keys, and strings in quotes. A string in double quotes has escapes, one in single
quotes has none; three quotes enclose a text of several lines.
-/

namespace Criteria.Toml

abbrev Reading (Answer : Type) := Option (Answer × List Char)

def isPlain (character : Char) : Bool :=
  character == '\t' || (0x20 ≤ character.toNat && character != '\x7f')

def isSpace (character : Char) : Bool :=
  character == ' ' || character == '\t'

def skipSpaces (characters : List Char) : List Char :=
  characters.dropWhile isSpace

def isBare (character : Char) : Bool :=
  character.isAlphanum || character == '_' || character == '-'

def escapeMeaning : Char → Text.EscapeMeaning
  | 'b' => .character '\x08'
  | 't' => .character '\t'
  | 'n' => .character '\n'
  | 'f' => .character '\x0c'
  | 'r' => .character '\r'
  | '"' => .character '"'
  | '\\' => .character '\\'
  | 'u' => .codePoint 4
  | 'U' => .codePoint 8
  | _ => .unknown

def prepend (character : Char) : Reading (List Char) → Reading (List Char) :=
  Option.map fun (text, rest) => (character :: text, rest)

def prependAny (character : Option Char) (reading : Reading (List Char)) : Reading (List Char) :=
  match character with
  | some character => prepend character reading
  | none => reading

/-! ## Strings on one line -/

def literalText : List Char → Reading (List Char)
  | [] => none
  | '\'' :: rest => some ([], rest)
  | character :: rest =>
      if isPlain character then prepend character (literalText rest) else none

def quotedText (state : Text.EscapeState) : List Char → Reading (List Char)
  | [] => none
  | character :: rest =>
      if state = .outside ∧ character = '"' then some ([], rest)
      else if !isPlain character then none
      else
        match state.step escapeMeaning character with
        | some (after, read) => prependAny read (quotedText after rest)
        | none => none

/-! ## Strings of several lines

Up to two quotes may stand right before the three that close the string. -/

def literalLines : List Char → Reading (List Char)
  | '\'' :: '\'' :: '\'' :: '\'' :: '\'' :: rest => some (['\'', '\''], rest)
  | '\'' :: '\'' :: '\'' :: '\'' :: rest => some (['\''], rest)
  | '\'' :: '\'' :: '\'' :: rest => some ([], rest)
  | character :: rest =>
      if isPlain character || character == '\n' then prepend character (literalLines rest)
      else none
  | [] => none

/-- A backslash at the end of a line swallows the line end and all blanks after it. -/
inductive LineState where
  | within (escape : Text.EscapeState)
  | ending
  | swallowing
deriving DecidableEq

def LineState.step (state : LineState) (next : Char) : Option (LineState × Option Char) :=
  let escape (escape : Text.EscapeState) : Option (LineState × Option Char) :=
    (escape.step escapeMeaning next).map fun (after, read) => (.within after, read)
  match state with
  | .within .marked =>
      if next = '\n' then some (.swallowing, none)
      else if isSpace next then some (.ending, none)
      else escape .marked
  | .within state => if next = '\n' ∧ state ≠ .outside then none else escape state
  | .ending =>
      if next = '\n' then some (.swallowing, none)
      else if isSpace next then some (.ending, none)
      else none
  | .swallowing =>
      if next = '\n' ∨ isSpace next then some (.swallowing, none) else escape .outside

def LineState.isOpen : LineState → Bool
  | .within .outside | .swallowing => true
  | _ => false

def quotedLines (state : LineState) : List Char → Reading (List Char)
  | [] => none
  | character :: rest =>
      match state.isOpen && character == '"', rest with
      | true, '"' :: '"' :: '"' :: '"' :: after => some (['"', '"'], after)
      | true, '"' :: '"' :: '"' :: after => some (['"'], after)
      | true, '"' :: '"' :: after => some ([], after)
      | _, _ =>
          if isPlain character || character == '\n' then
            match state.step character with
            | some (after, read) => prependAny read (quotedLines after rest)
            | none => none
          else none

/-- A line end right after the opening quotes is no part of the text. -/
def dropLineEnd : List Char → List Char
  | '\n' :: rest => rest
  | characters => characters

/-! ## Strings and keys -/

def stringText : List Char → Reading (List Char)
  | '"' :: '"' :: '"' :: rest => quotedLines (.within .outside) (dropLineEnd rest)
  | '"' :: rest => quotedText .outside rest
  | '\'' :: '\'' :: '\'' :: rest => literalLines (dropLineEnd rest)
  | '\'' :: rest => literalText rest
  | _ => none

def simpleKey (characters : List Char) : Reading String :=
  let text : Reading (List Char) :=
    match characters with
    | '"' :: rest => quotedText .outside rest
    | '\'' :: rest => literalText rest
    | _ =>
        if (characters.takeWhile isBare).isEmpty then none
        else some (characters.takeWhile isBare, characters.dropWhile isBare)
  text.map fun (text, rest) => (String.ofList text, rest)

def longestPath : Nat := 79

def keys : (limit : Nat) → List Char → Reading (List String)
  | 0, _ => none
  | limit + 1, characters =>
      match simpleKey (skipSpaces characters) with
      | none => none
      | some (key, rest) =>
          match skipSpaces rest with
          | '.' :: more => (keys limit more).map fun (others, rest) => (key :: others, rest)
          | rest => some ([key], rest)

end Criteria.Toml

import Criteria.Toml.Scalar

/-!
TOML documents: headers and assignments, one a line, that build up a table of tables.
-/

namespace Criteria.Toml

def skipGaps (inComment : Bool) : List Char → List Char
  | [] => []
  | character :: rest =>
      if character = '\n' then skipGaps false rest
      else if inComment then
        if isPlain character then skipGaps true rest else character :: rest
      else if isSpace character then skipGaps false rest
      else if character = '#' then skipGaps true rest
      else character :: rest

/-! ## Values

Lists and tables in braces may be nested, but not too deeply. The limit bounds the depth of steps;
each character accounts for two of them at most. -/

def deepestNesting : Nat := 79

mutual
def value : (limit nesting : Nat) → List Char → Reading Item
  | 0, _, _ => none
  | limit + 1, nesting, characters =>
      match characters, nesting with
      | '[' :: _, 0 | '\x7b' :: _, 0 => none
      | '[' :: rest, nesting + 1 =>
          (items limit nesting (skipGaps false rest)).map fun (items, rest) => (.array items, rest)
      | '\x7b' :: rest, nesting + 1 =>
          match skipSpaces rest with
          | '\x7d' :: rest => some (.table .closed [], rest)
          | rest =>
              (members limit nesting [] rest).map fun (fields, rest) =>
                (.table .closed fields, rest)
      | '"' :: _, _ | '\'' :: _, _ =>
          (stringText characters).map fun (text, rest) => (.string (String.ofList text), rest)
      | _, _ => scalar characters

def items : (limit nesting : Nat) → List Char → Reading (List Item)
  | 0, _, _ => none
  | limit + 1, nesting, characters =>
      match characters with
      | ']' :: rest => some ([], rest)
      | _ =>
          match value limit nesting characters with
          | none => none
          | some (item, rest) =>
              match skipGaps false rest with
              | ',' :: rest =>
                  (items limit nesting (skipGaps false rest)).map fun (others, rest) =>
                    (item :: others, rest)
              | ']' :: rest => some ([item], rest)
              | _ => none

def members : (limit nesting : Nat) → Fields → List Char → Reading Fields
  | 0, _, _, _ => none
  | limit + 1, nesting, fields, characters =>
      match assignment limit nesting characters with
      | none => none
      | some ((path, item), rest) =>
          match fields.assign item path, skipSpaces rest with
          | some fields, ',' :: rest => members limit nesting fields rest
          | some fields, '\x7d' :: rest => some (fields, rest)
          | _, _ => none

def assignment : (limit nesting : Nat) → List Char → Reading (List String × Item)
  | 0, _, _ => none
  | limit + 1, nesting, characters =>
      match keys longestPath characters with
      | some (path, '=' :: rest) =>
          (value limit nesting (skipSpaces rest)).map fun (item, rest) => ((path, item), rest)
      | _ => none
end

/-! ## Statements -/

/-- The table that assignments go to at present, and all tables. -/
structure Progress where
  path : List String
  fields : Fields

namespace Progress

def enter (progress : Progress) (change : String → Fields → Option Fields) (path : List String) :
    Option Progress :=
  match path.getLast? with
  | none => none
  | some name =>
      (progress.fields.changeAt (change name) path.dropLast).map fun fields => ⟨path, fields⟩

def assign (progress : Progress) (path : List String) (item : Item) : Option Progress :=
  (progress.fields.changeAt (Fields.assign item path) progress.path).map fun fields =>
    ⟨progress.path, fields⟩

end Progress

def lineEnd (characters : List Char) : Option (List Char) :=
  let rest :=
    match skipSpaces characters with
    | '#' :: comment => comment.dropWhile isPlain
    | rest => rest
  match rest with
  | [] => some []
  | '\n' :: rest => some rest
  | _ => none

def statement (limit : Nat) (progress : Progress) (characters : List Char) : Reading Progress :=
  let outcome : Option (Option Progress × List Char) :=
    match characters with
    | '[' :: '[' :: rest =>
        match keys longestPath rest with
        | some (path, ']' :: ']' :: rest) => some (progress.enter Fields.addTable path, rest)
        | _ => none
    | '[' :: rest =>
        match keys longestPath rest with
        | some (path, ']' :: rest) => some (progress.enter Fields.openTable path, rest)
        | _ => none
    | _ =>
        (assignment limit deepestNesting characters).map fun ((path, item), rest) =>
          (progress.assign path item, rest)
  match outcome with
  | some (some after, rest) => (lineEnd rest).map fun rest => (after, rest)
  | _ => none

/-- Each statement takes a character at least, which bounds their number; as many characters as that
bound are left at most. -/
def statements : (limit : Nat) → Progress → List Char → Option Fields
  | 0, _, _ => none
  | limit + 1, progress, characters =>
      match skipGaps false characters with
      | [] => some progress.fields
      | characters =>
          match statement (2 * limit + 2) progress characters with
          | some (after, rest) => statements limit after rest
          | none => none

def joinLineEnds : List Char → List Char
  | '\r' :: '\n' :: rest => '\n' :: joinLineEnds rest
  | character :: rest => character :: joinLineEnds rest
  | [] => []

def dropMark : List Char → List Char
  | '\ufeff' :: rest => rest
  | characters => characters

def read (text : String) : Option Fields :=
  let characters := joinLineEnds (dropMark text.toList)
  statements (characters.length + 1) ⟨[], []⟩ characters

end Criteria.Toml

import Criteria.Number.Radix
import Criteria.Yaml.Cursor

/-!
Tags, which say what a node is. A tag is written out between angle brackets, or as a handle and what
follows it; a directive says what a handle stands for.

A tag is a sequence of octets, since some of them may be given by their numbers. A zero octet ends
it.
-/

namespace Criteria.Yaml

abbrev Tag := List UInt8

namespace Tag

def ofText (text : String) : Tag :=
  text.toUTF8.data.toList

def text? (tag : Tag) : Option String :=
  String.fromUTF8? ⟨tag.toArray⟩

def null : Tag := ofText "tag:yaml.org,2002:null"

def boolean : Tag := ofText "tag:yaml.org,2002:bool"

def integer : Tag := ofText "tag:yaml.org,2002:int"

/-- Private tags start with an exclamation mark, which is no part of their name. -/
def privateName? : Tag → Option String
  | 0x21 :: name => text? name
  | _ => none

end Tag

/-! ## Octets given by numbers -/

def octetCount? (first : Nat) : Option Nat :=
  if first < 0x80 then some 1
  else if first < 0xc0 then none
  else if first < 0xe0 then some 2
  else if first < 0xf0 then some 3
  else if first < 0xf8 then some 4
  else none

def octet? : List Char → Option (Nat × List Char)
  | '%' :: high :: low :: rest =>
      (Number.readDigits 16 [high, low]).map fun octet => (octet, rest)
  | _ => none

def laterOctets : (count : Nat) → List Char → Option (Tag × List Char)
  | 0, characters => some ([], characters)
  | count + 1, characters =>
      match octet? characters with
      | some (octet, rest) =>
          if 0x80 ≤ octet ∧ octet < 0xc0 then
            (laterOctets count rest).map fun (octets, rest) => (octet.toUInt8 :: octets, rest)
          else none
      | none => none

def numberedOctets (characters : List Char) : Option (Tag × List Char) :=
  match octet? characters with
  | some (first, rest) =>
      match octetCount? first with
      | some count =>
          (laterOctets (count - 1) rest).map fun (octets, rest) => (first.toUInt8 :: octets, rest)
      | none => none
  | none => none

/-! ## Reading tags -/

/-- Between angle brackets and in directives, a tag may have more characters than after a handle. -/
def isTagCharacter (writtenOut : Bool) (character : Char) : Bool :=
  isNameCharacter character ||
    [';', '/', '?', ':', '@', '&', '=', '+', '$', '.', '%', '!', '~', '*', '\'', '(', ')'].contains
      character ||
    (writtenOut && [',', '[', ']'].contains character)

/-- The octets of a word. Each step takes at least one character, which bounds their number. -/
def tagOctets : (limit : Nat) → List Char → Option Tag
  | 0, _ => none
  | _ + 1, [] => some []
  | limit + 1, character :: rest =>
      if character = '%' then
        match numberedOctets (character :: rest) with
        | some (octets, rest) => (tagOctets limit rest).map (octets ++ ·)
        | none => none
      else (tagOctets limit rest).map (character.toNat.toUInt8 :: ·)

def tagText (writtenOut : Bool) (first : Tag) (cursor : Cursor) : Reading Tag :=
  let (word, after) := cursor.takeWhile (isTagCharacter writtenOut)
  (tagOctets (word.length + 1) word).map fun octets =>
    ((first ++ octets).takeWhile (· != 0), after)

/-- The tag as it is written: a handle, which is empty if the tag is written out, and the rest. -/
structure TagMark where
  handle : String
  name : Tag
deriving DecidableEq

def tagHandle (cursor : Cursor) : Reading (List Char × Bool) :=
  match cursor.expect '!' with
  | none => none
  | some start =>
      let (name, after) := start.takeWhile isNameCharacter
      match after.expect '!' with
      | some closed => some (('!' :: name ++ ['!'], true), closed)
      | none => some (('!' :: name, false), after)

def tagMark (cursor : Cursor) : Reading TagMark :=
  match cursor.rest with
  | '!' :: '<' :: _ =>
      let start := cursor.advance 2
      match tagText true [] start with
      | none => none
      | some (name, after) =>
          if after.position = start.position then none
          else (after.expect '>').map fun after => (⟨"", name⟩, after)
  | _ =>
      match tagHandle cursor with
      | none => none
      | some ((handle, true), start) =>
          match tagText false [] start with
          | none => none
          | some (name, after) =>
              if after.position = start.position then none
              else some (⟨String.ofList handle, name⟩, after)
      | some ((name, false), start) =>
          match tagText false (Tag.ofText (String.ofList (name.drop 1))) start with
          | none => none
          | some ([], after) => some (⟨"", Tag.ofText "!"⟩, after)
          | some (name, after) => some (⟨"!", name⟩, after)

/-- A tag ends with a word, or in the flow style before a comma. -/
def tag (inFlow : Bool) (cursor : Cursor) : Reading TagMark :=
  match tagMark cursor with
  | some (mark, after) =>
      if endsWord after.rest || (inFlow && after.rest.head? == some ',') then some (mark, after)
      else none
  | none => none

/-! ## What handles stand for -/

abbrev TagHandles := List (String × Tag)

namespace TagHandles

def usual : TagHandles :=
  [("!", Tag.ofText "!"), ("!!", Tag.ofText "tag:yaml.org,2002:")]

/-- A written tag as a whole. No directive is needed for one that is written out. -/
def resolve (handles : TagHandles) (mark : TagMark) : Option Tag :=
  if mark.handle.isEmpty then some mark.name
  else ((handles.lookup mark.handle).or (usual.lookup mark.handle)).map (· ++ mark.name)

end TagHandles

end Criteria.Yaml

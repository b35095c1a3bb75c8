import Criteria.Pattern.Mode
import Criteria.Text.Escape

/-!
The smallest parts of a pattern: single characters, some sets that have letters as their names, and
conditions on a position.

No table of characters stands behind a pattern. So nothing is known about the case of characters,
about digits, blanks and words outside of ASCII, or about any other property. Patterns are read in
text, and what speaks of bytes must not match a part of a character.
-/

namespace Criteria.Pattern

open Text

/-- A set is one of digits, blanks or the characters of words. An anchor is an end of a line or of
the text, and an edge is one of a word. -/
inductive Element where
  | literal (character : Char) (isByte : Bool)
  | wildcard
  | set (isNegated : Bool)
  | anchor
  | edge
deriving DecidableEq

namespace Element

def isAllowed (mode : Mode) : Element → Bool
  | .literal character isByte =>
      if mode.isUnicode then !mode.foldsCase else !(isByte && 0x80 ≤ character.toNat)
  | .wildcard => mode.isUnicode
  | .set isNegated => !mode.isUnicode && !isNegated
  | .anchor => true
  | .edge => !mode.isUnicode

def isAllowedInClass (mode : Mode) : Element → Bool
  | .literal character _ =>
      if mode.isUnicode then !mode.foldsCase else character.toNat < 0x80
  | .set isNegated => !mode.isUnicode && !isNegated
  | .wildcard | .anchor | .edge => false

end Element

/-! ## Escapes -/

def readCode (mode : Mode) (code : Nat) : Nat → List Char → Option (Nat × List Char)
  | 0, characters => some (code, characters)
  | digits + 1, characters =>
      match mode.skip characters with
      | [] => none
      | character :: rest =>
          match Number.digitValue? 16 character with
          | none => none
          | some value => readCode mode (code * 16 + value) digits rest

def readCodePoint (mode : Mode) (digits : Nat) (characters : List Char) :
    Option (Element × List Char) :=
  match readCode mode 0 digits characters with
  | none => none
  | some (code, rest) =>
      (character? code).map fun character => (.literal character (digits == 2), rest)

/-- What a backslash makes of the character behind it. The characters of ASCII that are neither
letters nor digits stand for themselves, except for the two brackets that are edges. -/
def readEscape (mode : Mode) : List Char → Option (Element × List Char)
  | [] => none
  | 'x' :: rest => readCodePoint mode 2 rest
  | 'u' :: rest => readCodePoint mode 4 rest
  | 'U' :: rest => readCodePoint mode 8 rest
  | character :: rest =>
      let element : Option Element :=
        match character with
        | 'a' => some (.literal '\x07' false)
        | 'f' => some (.literal '\x0c' false)
        | 't' => some (.literal '\t' false)
        | 'n' => some (.literal '\n' false)
        | 'r' => some (.literal '\r' false)
        | 'v' => some (.literal '\x0b' false)
        | 'd' | 's' | 'w' => some (.set false)
        | 'D' | 'S' | 'W' => some (.set true)
        | 'A' | 'z' => some .anchor
        | 'b' | 'B' | '<' | '>' => some .edge
        | _ =>
            if 0x80 ≤ character.toNat || character.isAlphanum then none
            else some (.literal character false)
      element.map (·, rest)

example : readEscape .usual ['x', '4', '1', 'b'] = some (.literal 'A' true, ['b']) := by decide
example : readEscape .usual ['q'] = none := by decide

end Criteria.Pattern

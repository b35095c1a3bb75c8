import Criteria.Number.Radix

/-!
Reading escape sequences, one character at a time: a backslash, and then either a letter that
stands for one character, or a letter that announces a number of hexadecimal digits.
-/

namespace Criteria.Text

inductive EscapeMeaning where
  | character (character : Char)
  | codePoint (digits : Nat)
  | unknown

/-- Where a reader stands: outside of any escape, right after a backslash, or before some more
digits of a code point. -/
inductive EscapeState where
  | outside
  | marked
  | digits (left : Nat) (value : Nat)
deriving DecidableEq

def character? (code : Nat) : Option Char :=
  if code.isValidChar then some (Char.ofNat code) else none

/-- One step inside an escape: the state afterwards, with the character that the escape stands for
if it is complete. -/
def EscapeState.step (meaning : Char → EscapeMeaning) (state : EscapeState) (next : Char) :
    Option (EscapeState × Option Char) :=
  match state with
  | .outside => if next = '\\' then some (.marked, none) else some (.outside, some next)
  | .marked =>
      match meaning next with
      | .character character => some (.outside, some character)
      | .codePoint count => some (.digits count 0, none)
      | .unknown => none
  | .digits left value =>
      match Number.digitValue? 16 next with
      | none => none
      | some digit =>
          if 1 < left then some (.digits (left - 1) (value * 16 + digit), none)
          else (character? (value * 16 + digit)).map fun character => (.outside, some character)

end Criteria.Text

/-!
White space as the Unicode standard lists it, and trimming. A character outside the list, such as
a zero-width space, is no white space however it looks.
-/

namespace Criteria.Text

def isBlank (character : Char) : Bool :=
  let code := character.toNat
  (9 ≤ code && code ≤ 13) || code == 0x20 || code == 0x85 || code == 0xA0 || code == 0x1680 ||
    (0x2000 ≤ code && code ≤ 0x200A) || code == 0x2028 || code == 0x2029 || code == 0x202F ||
    code == 0x205F || code == 0x3000

example : isBlank '\t' = true ∧ isBlank '\u00a0' = true ∧ isBlank '\u200b' = false := by decide

def trimLeft (characters : List Char) : List Char :=
  characters.dropWhile isBlank

def trimRight (characters : List Char) : List Char :=
  (characters.reverse.dropWhile isBlank).reverse

def trim (characters : List Char) : List Char :=
  trimRight (trimLeft characters)

example : trim [' ', 'a', ' ', 'b', '\n'] = ['a', ' ', 'b'] := by decide

end Criteria.Text

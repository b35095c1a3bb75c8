import Criteria.Text.Alphabetic
import Criteria.Text.Numeric

/-!
Letters and numerals of all scripts, taken together.
-/

namespace Criteria.Text

def isAlphanumeric (character : Char) : Bool :=
  isAlphabetic character || isNumeric character

end Criteria.Text

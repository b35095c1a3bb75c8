import Criteria.Calendar
import Criteria.Number.FloatReading
import Criteria.Number.Radix
import Criteria.Toml.Item
import Criteria.Toml.Text

/-!
Numbers, truth values and points in time, as TOML writes them. Digits may be grouped by underscores
that stand between two digits.
-/

namespace Criteria.Toml

def isDigitIn (radix : Nat) (character : Char) : Bool :=
  (Number.digitValue? radix character).isSome

def ungrouped (radix : Nat) : List Char → Option (List Char)
  | [] => none
  | [digit] => if isDigitIn radix digit then some [digit] else none
  | digit :: '_' :: rest =>
      if isDigitIn radix digit then (ungrouped radix rest).map (digit :: ·) else none
  | digit :: rest =>
      if isDigitIn radix digit then (ungrouped radix rest).map (digit :: ·) else none

example : ungrouped 10 ['1', '_', '0'] = some ['1', '0'] := by decide
example : ungrouped 10 ['1', '_'] = none := by decide

/-! ## Integers -/

def ofRadix (radix : Nat) (digits : List Char) : Option Int :=
  ((ungrouped radix digits).bind (Number.readDigits radix)).map fun value => (value : Int)

def decimalDigits (characters : List Char) : Option (List Char) :=
  match characters with
  | '0' :: _ :: _ => none
  | _ => ungrouped 10 characters

def decimal (characters : List Char) : Option Int :=
  ((decimalDigits characters).bind (Number.readDigits 10)).map fun value => (value : Int)

def integer? (characters : List Char) : Option Item :=
  let value : Option Int :=
    match characters with
    | '0' :: 'x' :: digits => ofRadix 16 digits
    | '0' :: 'o' :: digits => ofRadix 8 digits
    | '0' :: 'b' :: digits => ofRadix 2 digits
    | '+' :: digits => decimal digits
    | '-' :: digits => (decimal digits).map fun value => -value
    | digits => decimal digits
  (value.bind Number.toInt64?).map Item.integer

/-! ## Fractions -/

def unsigned (characters : List Char) : List Char :=
  match characters with
  | '+' :: rest | '-' :: rest => rest
  | rest => rest

def isExponentMark (character : Char) : Bool :=
  character == 'e' || character == 'E'

def exponentDigits (characters : List Char) : Option (List Char) :=
  match characters with
  | mark :: rest => if isExponentMark mark then ungrouped 10 (unsigned rest) else none
  | [] => some []

def isFraction (characters : List Char) : Bool :=
  let magnitude := unsigned characters
  let mantissa := magnitude.takeWhile (!isExponentMark ·)
  let power := magnitude.dropWhile (!isExponentMark ·)
  let whole := mantissa.takeWhile (· != '.')
  let wellFormed :=
    match mantissa.dropWhile (· != '.') with
    | _ :: digits => (ungrouped 10 digits).isSome
    | [] => !power.isEmpty
  let value := Number.readFloat (characters.filter (· != '_'))
  (decimalDigits whole).isSome && wellFormed && (exponentDigits power).isSome &&
    value.any fun value => !(value.isInf && 0.0 < value)

def isSpecial (characters : List Char) : Bool :=
  unsigned characters == ['i', 'n', 'f'] || unsigned characters == ['n', 'a', 'n']

/-! ## Points in time -/

def pair? (first second : Char) : Option Nat :=
  Number.readDigits 10 [first, second]

def within? (least greatest : Nat) (first second : Char) : Bool :=
  (pair? first second).any fun value => least ≤ value && value ≤ greatest

def afterDate : List Char → Option (List Char)
  | a :: b :: c :: d :: '-' :: e :: f :: '-' :: g :: h :: rest =>
      match Number.readDigits 10 [a, b, c, d], pair? e f, pair? g h with
      | some year, some month, some day =>
          if 1 ≤ month ∧ month ≤ 12 ∧ 1 ≤ day ∧ day ≤ Calendar.daysInMonth year month then
            some rest
          else none
      | _, _, _ => none
  | _ => none

def afterTime : List Char → Option (List Char)
  | a :: b :: ':' :: c :: d :: ':' :: e :: f :: rest =>
      if within? 0 23 a b && within? 0 59 c d && within? 0 60 e f then
        match rest with
        | '.' :: digits =>
            if (digits.takeWhile Char.isDigit).isEmpty then none
            else some (digits.dropWhile Char.isDigit)
        | rest => some rest
      else none
  | _ => none

def isOffset : List Char → Bool
  | [] | ['Z'] | ['z'] => true
  | [sign, a, b, ':', c, d] =>
      (sign == '+' || sign == '-') && within? 0 23 a b && within? 0 59 c d
  | _ => false

def isMoment (characters : List Char) : Bool :=
  match afterDate characters with
  | some [] => true
  | some (mark :: time) =>
      (mark == 'T' || mark == 't' || mark == ' ') && (afterTime time).any isOffset
  | none => afterTime characters == some []

/-! ## Scalars without quotes -/

def isWordPart (character : Char) : Bool :=
  isBare character || character == '+' || character == '.' || character == ':'

/-- The characters of a scalar. A date may be followed by a time after a single space. -/
def wordLength (characters : List Char) : Nat :=
  let word := characters.takeWhile isWordPart
  match afterDate word, characters.drop word.length with
  | some [], ' ' :: next :: rest =>
      if next.isDigit then word.length + 1 + ((next :: rest).takeWhile isWordPart).length
      else word.length
  | _, _ => word.length

def ofWord (word : List Char) : Option Item :=
  if word = ['t', 'r', 'u', 'e'] then some (.boolean true)
  else if word = ['f', 'a', 'l', 's', 'e'] then some (.boolean false)
  else if isSpecial word then some .fraction
  else if isMoment word then some .moment
  else if isFraction word then some .fraction
  else integer? word

def scalar (characters : List Char) : Reading Item :=
  let length := wordLength characters
  (ofWord (characters.take length)).map fun item => (item, characters.drop length)

example : isFraction ['1', '.', '5'] = true ∧ isFraction ['1', '5'] = false := by decide

end Criteria.Toml

import Criteria.Number.Integer
import Criteria.Number.Shortest

/-!
Text of doubles. Zero and the magnitudes from 0.0001 up to, but not including, 10^16 are written
with a decimal point and at least one digit after it, all others with an exponent, which has
neither a plus sign nor padding.
-/

namespace Criteria.Number

namespace Decimal

def digitCharacters (decimal : Decimal) : List Char :=
  natural decimal.digits

def pointPosition (decimal : Decimal) : Int :=
  decimal.digitCharacters.length + decimal.exponent

def positional (decimal : Decimal) : List Char :=
  let digits := decimal.digitCharacters
  let position := decimal.pointPosition
  if 0 ≤ decimal.exponent then
    digits ++ List.replicate decimal.exponent.toNat '0' ++ ['.', '0']
  else if 0 < position then
    digits.take position.toNat ++ '.' :: digits.drop position.toNat
  else '0' :: '.' :: List.replicate (-position).toNat '0' ++ digits

def scientific (decimal : Decimal) : List Char :=
  let power := 'e' :: integer (decimal.pointPosition - 1)
  match decimal.digitCharacters with
  | first :: second :: rest => first :: '.' :: second :: rest ++ power
  | digits => digits ++ power

def characters (decimal : Decimal) : List Char :=
  if -4 < decimal.pointPosition ∧ decimal.pointPosition ≤ 16 then decimal.positional
  else decimal.scientific

example : (Decimal.mk 15 (-1)).characters = ['1', '.', '5'] := by decide
example : (Decimal.mk 1 (-4)).characters = ['0', '.', '0', '0', '0', '1'] := by decide
example : (Decimal.mk 15 15).characters = ['1', '.', '5', 'e', '1', '6'] := by decide
example : (Decimal.mk 5 (-5)).characters = ['5', 'e', '-', '5'] := by decide

end Decimal

def floatCharacters (value : Float) : List Char :=
  let sign := if hasMinusSign value then ['-'] else []
  match Magnitude.ofFloat value with
  | .notANumber => ['N', 'a', 'N']
  | .infinite => sign ++ ['i', 'n', 'f']
  | .finite 0 _ => sign ++ ['0', '.', '0']
  | .finite significand exponent => sign ++ (shortestDecimal significand exponent).characters

def fixedPlaces (places : Nat) (value : Float) : List Char :=
  match Magnitude.ofFloat value with
  | .finite significand exponent =>
      let scaled := unscale (significand * Nat.pow 10 places) 1 (-exponent)
      let digits := natural (roundQuotient scaled.1 scaled.2)
      let padded := List.replicate (places + 1 - digits.length) '0' ++ digits
      padded.take (padded.length - places) ++ '.' :: padded.drop (padded.length - places)
  | _ => floatCharacters value

end Criteria.Number

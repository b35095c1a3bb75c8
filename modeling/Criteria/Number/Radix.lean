/-!
Whole numbers in a radix of at most sixteen. Letters count as digits in either case; a sign is no
part of such a number.
-/

namespace Criteria.Number

def digitValue? (radix : Nat) (character : Char) : Option Nat :=
  let code := character.toNat
  let value : Option Nat :=
    if 48 ≤ code ∧ code ≤ 57 then some (code - 48)
    else if 97 ≤ code ∧ code ≤ 102 then some (code - 87)
    else if 65 ≤ code ∧ code ≤ 70 then some (code - 55)
    else none
  value.filter (· < radix)

def readDigitsAfter (radix total : Nat) : List Char → Option Nat
  | [] => some total
  | character :: rest =>
      match digitValue? radix character with
      | some value => readDigitsAfter radix (total * radix + value) rest
      | none => none

def readDigits (radix : Nat) (characters : List Char) : Option Nat :=
  if characters.isEmpty then none else readDigitsAfter radix 0 characters

example : readDigits 16 ['f', 'F'] = some 255 := by decide
example : readDigits 2 ['1', '2'] = none := by decide
example : readDigits 10 [] = none := by decide

end Criteria.Number

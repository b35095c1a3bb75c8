import Criteria.Number.Integer
import Criteria.Number.Binary

/-!
Reading a double from decimal text: an optional sign, digits with an optional point that has a
digit on at least one side, and an optional exponent. The words for infinity and for the absence
of a number are accepted in any case of letters. The result is the nearest double.
-/

namespace Criteria.Number

structure DecimalText where
  digits : List Char
  exponent : Int

/-! An exponent beyond these bounds decides the result without any arithmetic. -/

def largestMagnitude : Int := 400

def DecimalText.bits (text : DecimalText) : Nat :=
  let digits := text.digits.dropWhile (· == '0')
  let position := (digits.length : Int) + text.exponent
  if digits.isEmpty || position < -largestMagnitude then 0
  else if largestMagnitude < position then infinityBits
  else
    let value := Nat.ofDigitChars 10 digits 0
    if text.exponent < 0 then nearestBits value (Nat.pow 10 text.exponent.natAbs)
    else nearestBits (value * Nat.pow 10 text.exponent.natAbs) 1

def readExponent : List Char → Option Int
  | [] => some 0
  | mark :: rest => if mark = 'e' ∨ mark = 'E' then readInteger rest else none

def readDecimal (characters : List Char) : Option DecimalText :=
  let whole := characters.takeWhile Char.isDigit
  let afterWhole := characters.dropWhile Char.isDigit
  let parts : List Char × List Char :=
    match afterWhole with
    | '.' :: rest => (rest.takeWhile Char.isDigit, rest.dropWhile Char.isDigit)
    | rest => ([], rest)
  if whole.isEmpty && parts.1.isEmpty then none
  else (readExponent parts.2).map fun exponent =>
    ⟨whole ++ parts.1, exponent - parts.1.length⟩

def notANumberBits : Nat := infinityBits + leadingBit / 2

def readMagnitude (characters : List Char) : Option Nat :=
  let word := String.ofList (characters.map Char.toLower)
  if word = "inf" ∨ word = "infinity" then some infinityBits
  else if word = "nan" then some notANumberBits
  else (readDecimal characters).map DecimalText.bits

def readFloat : List Char → Option Float
  | '-' :: rest => (readMagnitude rest).map (floatOf true)
  | '+' :: rest => (readMagnitude rest).map (floatOf false)
  | characters => (readMagnitude characters).map (floatOf false)

end Criteria.Number

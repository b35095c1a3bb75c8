/-!
Double-precision numbers as exact fractions. A finite double is a whole number times a power of
two; the opposite direction rounds a fraction to the nearest double, a tie to the even one.
-/

namespace Criteria.Number

inductive Magnitude where
  | notANumber
  | infinite
  | finite (significand : Nat) (exponent : Int)

def significandBits : Nat := 52

def leastExponent : Int := -1074

def leadingBit : Nat := Nat.pow 2 significandBits

def signBit : Nat := Nat.pow 2 63

def infinityBits : Nat := 2047 * leadingBit

namespace Magnitude

/-- The lowest exponent field has no implied leading bit. -/
def ofBits (bits : Nat) : Magnitude :=
  let fraction : Nat := bits % leadingBit
  let field : Nat := bits / leadingBit % 2048
  if field = 2047 then if fraction = 0 then .infinite else .notANumber
  else if field = 0 then .finite fraction leastExponent
  else .finite (fraction + leadingBit) (leastExponent + (field - 1))

def ofFloat (value : Float) : Magnitude :=
  ofBits value.toBits.toNat

end Magnitude

def hasMinusSign (value : Float) : Bool :=
  signBit ≤ value.toBits.toNat

/-- The quotient rounded to the nearest whole number, a tie to the even one. -/
def roundQuotient (numerator denominator : Nat) : Nat :=
  let quotient := numerator / denominator
  let rest := numerator % denominator
  if 2 * rest < denominator then quotient
  else if 2 * rest = denominator ∧ quotient % 2 = 0 then quotient
  else quotient + 1

example : roundQuotient 5 2 = 2 ∧ roundQuotient 7 2 = 4 ∧ roundQuotient 5 3 = 2 := by decide

def unscale (numerator denominator : Nat) (exponent : Int) : Nat × Nat :=
  if exponent < 0 then (numerator * Nat.pow 2 exponent.natAbs, denominator)
  else (numerator, denominator * Nat.pow 2 exponent.natAbs)

def fittingExponent (numerator denominator : Nat) : Int :=
  let guess := (numerator.log2 : Int) - denominator.log2 - significandBits
  let scaled := unscale numerator denominator guess
  let exponent := if scaled.1 < leadingBit * scaled.2 then guess - 1 else guess
  max exponent leastExponent

/-- The bits of the double nearest to a positive fraction. Exponent and significand are added, so a
significand that rounds up to the next power of two carries into the exponent. -/
def nearestBits (numerator denominator : Nat) : Nat :=
  let exponent := fittingExponent numerator denominator
  let scaled := unscale numerator denominator exponent
  let bits := (exponent - leastExponent).toNat * leadingBit +
    roundQuotient scaled.1 scaled.2
  min bits infinityBits

example : nearestBits 1 1 = 0x3ff0000000000000 := by decide
example : nearestBits 1 10 = 0x3fb999999999999a := by decide

def floatOf (negative : Bool) (bits : Nat) : Float :=
  Float.ofBits (UInt64.ofNat (if negative then bits + signBit else bits))

end Criteria.Number

import Criteria.Number.Binary

/-!
The shortest decimal of a double: among the decimals that round to the double, those with the
fewest digits, and of these the nearest. A tie goes to the larger one.
-/

namespace Criteria.Number

structure Decimal where
  digits : Nat
  exponent : Int

/-- The fractions that round to a double, on one denominator. The ends belong to the interval when
the significand is even. -/
structure Interval where
  low : Nat
  value : Nat
  high : Nat
  denominator : Nat
  closed : Bool

namespace Interval

/-- Just above a power of two the doubles lie twice as far apart as just below it. -/
def ofBinary (significand : Nat) (exponent : Int) : Interval :=
  let narrow := significand = leadingBit ∧ leastExponent < exponent
  let up := Nat.pow 2 (exponent - 2).toNat
  let down := Nat.pow 2 (2 - exponent).toNat
  { low := (4 * significand - if narrow then 1 else 2) * up
    value := 4 * significand * up
    high := (4 * significand + 2) * up
    denominator := down
    closed := significand % 2 == 0 }

def multiple? (interval : Interval) (power : Int) : Option Nat :=
  let up := Nat.pow 10 (-power).toNat
  let unit := interval.denominator * Nat.pow 10 power.toNat
  let inside (count : Nat) : Bool :=
    if interval.closed then
      interval.low * up ≤ count * unit && count * unit ≤ interval.high * up
    else interval.low * up < count * unit && count * unit < interval.high * up
  let below := interval.value * up / unit
  let rest := interval.value * up % unit
  if below ≠ 0 ∧ inside below ∧ (2 * rest < unit ∨ !inside (below + 1)) then some below
  else if inside (below + 1) then some (below + 1)
  else none

/-- Seventeen digits always suffice, so the search ends before its last grid. -/
def search (interval : Interval) (power : Int) : Nat → Decimal
  | 0 => ⟨0, 0⟩
  | remaining + 1 =>
      match interval.multiple? power with
      | some digits => ⟨digits, power⟩
      | none => interval.search (power - 1) remaining

/-- A power of ten no smaller than the value, and at most a hundred times as large. -/
def coarsestPower (interval : Interval) : Int :=
  if interval.denominator ≤ interval.value then
    (Nat.toDigits 10 (interval.value / interval.denominator)).length
  else 1 - ((Nat.toDigits 10 (interval.denominator / interval.value)).length : Int)

def shortest (interval : Interval) : Decimal :=
  interval.search interval.coarsestPower 20

end Interval

def shortestDecimal (significand : Nat) (exponent : Int) : Decimal :=
  (Interval.ofBinary significand exponent).shortest

end Criteria.Number

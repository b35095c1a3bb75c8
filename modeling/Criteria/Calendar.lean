import Criteria.Value

/-!
Calendar dates of the Gregorian calendar, extended to all years, and instants.
-/

namespace Criteria

namespace Calendar

def isLeap (year : Int) : Bool :=
  year % 4 == 0 && (year % 100 != 0 || year % 400 == 0)

def daysInMonth (year : Int) : Nat → Nat
  | 2 => if isLeap year then 29 else 28
  | 4 | 6 | 9 | 11 => 30
  | _ => 31

def daysBeforeMonth (year : Int) : Nat → Nat
  | 0 => 0
  | month + 1 => if month = 0 then 0 else daysBeforeMonth year month + daysInMonth year month

def daysBeforeYear (year : Int) : Int :=
  let passed := year - 1
  365 * passed + passed.fdiv 4 - passed.fdiv 100 + passed.fdiv 400

def epochDay : Int := daysBeforeYear 1970

def leastYear : Int := -262143

def greatestYear : Int := 262142

def day? (year : Int) (month day : Nat) : Option Int :=
  if leastYear ≤ year ∧ year ≤ greatestYear ∧ 1 ≤ month ∧ month ≤ 12 ∧ 1 ≤ day ∧
      day ≤ daysInMonth year month then
    some (daysBeforeYear year + daysBeforeMonth year month + (day - 1) - epochDay)
  else none

def date? (year : Int) (month day : Nat) : Option Value :=
  (day? year month day).map fun number => .date (Int32.ofInt number)

example : day? 1970 1 2 = some 1 := by decide
example : day? 2000 2 29 = some 11016 := by decide
example : day? 2001 2 29 = none := by decide

def secondsPerDay : Int := 86400

/-! The first and the last day that an instant may lie on. -/

def leastDay : Int := daysBeforeYear leastYear - epochDay

def greatestDay : Int := daysBeforeYear (greatestYear + 1) - 1 - epochDay

/-- Milliseconds since the start of 1970 of an instant given in seconds and nanoseconds. A second
that is longer than usual may only be the last one of its minute. The offset of the clock that
shows the instant does not change the instant, but must be less than a day. -/
def instant? (seconds : Int) (nanoseconds : Nat) (offset : Int) : Option Value :=
  let day := seconds.fdiv secondsPerDay
  if leastDay ≤ day ∧ day ≤ greatestDay ∧ nanoseconds < 2000000000 ∧
      (nanoseconds < 1000000000 ∨ seconds % 60 = 59) ∧ offset.natAbs < 86400 then
    some (.datetime (Int64.ofInt (seconds * 1000 + (nanoseconds / 1000000 : Nat))))
  else none

end Calendar

end Criteria

import Criteria.Value

/-!
Equality and order of values. Integers and floats meet as numbers, and two floats within one
rounding unit of each other count as equal. Values of unrelated kinds differ and have no order;
neither do lists, records or missing values.
-/

namespace Criteria

namespace Value

def floatTolerance : Float :=
  Float.ofBits 0x3cb0000000000000

def closeFloats (left right : Float) : Bool :=
  (left - right).abs < floatTolerance

mutual
def equal : Value → Value → Bool
  | .none, .none => true
  | .bool left, .bool right => left == right
  | .int left, .int right => left == right
  | .float left, .float right => closeFloats left right || (left.isNaN && right.isNaN)
  | .int left, .float right => closeFloats left.toFloat right
  | .float left, .int right => closeFloats left right.toFloat
  | .string left, .string right => left == right
  | .date left, .date right => left == right
  | .datetime left, .datetime right => left == right
  | .list left, .list right => equalLists left right
  | .record left, .record right => left == right
  | _, _ => false

def equalLists : List Value → List Value → Bool
  | [], [] => true
  | left :: lefts, right :: rights => left.equal right && equalLists lefts rights
  | _, _ => false
end

def orderBy {Key : Type} [LT Key] [DecidableLT Key] (left right : Key) : Ordering :=
  if left < right then .lt else if right < left then .gt else .eq

/-- A float that is no number has no place in the order. -/
def orderFloats (left right : Float) : Option Ordering :=
  if left < right then some .lt
  else if right < left then some .gt
  else if left == right then some .eq
  else Option.none

def order : Value → Value → Option Ordering
  | .int left, .int right => some (orderBy left right)
  | .float left, .float right => orderFloats left right
  | .int left, .float right => orderFloats left.toFloat right
  | .float left, .int right => orderFloats left right.toFloat
  | .string left, .string right => some (orderBy left right)
  | .bool left, .bool right => some (compare left right)
  | .date left, .date right => some (orderBy left right)
  | .datetime left, .datetime right => some (orderBy left right)
  | _, _ => Option.none

end Value

end Criteria

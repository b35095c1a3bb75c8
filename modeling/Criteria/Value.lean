import Criteria.Number.Integer

/-!
Dynamic values, as they are read from records and written in conditions.

A record appears here only as a handle. What it answers to reads and calls is a matter of the world
in which a condition is evaluated, so two records are the same exactly when their handles are.
-/

namespace Criteria

structure Record where
  identity : Nat
deriving DecidableEq

/-- Dates count days and date-times count milliseconds, both from the start of 1970. -/
inductive Value where
  | none
  | bool (value : Bool)
  | int (value : Int64)
  | float (value : Float)
  | string (text : String)
  | date (day : Int32)
  | datetime (millisecond : Int64)
  | list (items : List Value)
  | record (record : Record)

namespace Value

def ofSize (size : Nat) : Value :=
  .int (Number.sizeToInt64 size)

def isNone : Value → Bool
  | .none => true
  | _ => false

def bool? : Value → Option Bool
  | .bool value => some value
  | _ => Option.none

def int? : Value → Option Int64
  | .int value => some value
  | _ => Option.none

def number? : Value → Option Float
  | .float value => some value
  | .int value => some value.toFloat
  | _ => Option.none

def string? : Value → Option String
  | .string text => some text
  | _ => Option.none

def list? : Value → Option (List Value)
  | .list items => some items
  | _ => Option.none

def isRecord : Value → Bool
  | .record _ => true
  | _ => false

def kind : Value → String
  | .none => "none"
  | .bool _ => "bool"
  | .int _ => "int"
  | .float _ => "float"
  | .string _ => "string"
  | .date _ => "date"
  | .datetime _ => "datetime"
  | .list _ => "list"
  | .record _ => "record"

end Value

end Criteria

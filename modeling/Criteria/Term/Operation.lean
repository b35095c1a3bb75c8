import Criteria.Term
import Criteria.Value.Order

/-!
What the operations inside terms mean on values: reading through a value, calling on a value,
comparing, adding, and taking a value as a condition.
-/

namespace Criteria

namespace Value

def condition : Value → Except Failure Bool
  | .bool value => .ok value
  | value => .error (.notBoolean value)

@[simp] theorem condition_bool (value : Bool) : (Value.bool value).condition = .ok value :=
  rfl

def addInts? (left right : Int64) : Option Int64 :=
  Number.toInt64? (left.toInt + right.toInt)

/-- A sum that contains a float is a float. A sum of integers is exact or fails. -/
def add : Value → Value → Except Failure Value
  | .int left, .int right =>
      match addInts? left right with
      | some sum => .ok (.int sum)
      | .none => .error (.arithmetic (.int left) (.int right))
  | .float left, .float right => .ok (.float (left + right))
  | .int left, .float right => .ok (.float (left.toFloat + right))
  | .float left, .int right => .ok (.float (left + right.toFloat))
  | left, right => .error (.arithmetic left right)

end Value

namespace Comparison

def accepts : Comparison → Ordering → Bool
  | .eq, ordering => ordering == .eq
  | .ne, ordering => ordering != .eq
  | .lt, ordering => ordering == .lt
  | .le, ordering => ordering != .gt
  | .gt, ordering => ordering == .gt
  | .ge, ordering => ordering != .lt

/-- An ordering is false when a value is missing or a float is no number, and fails for values
without a common order. -/
def decideOrder (comparison : Comparison) (left right : Value) : Except Failure Bool :=
  if left.isNone || right.isNone then .ok false
  else
    match left.order right with
    | some ordering => .ok (comparison.accepts ordering)
    | none =>
        if left.number?.isSome && right.number?.isSome then .ok false
        else .error (.incomparable left right)

def apply (comparison : Comparison) (left right : Value) : Except Failure Bool :=
  match comparison with
  | .eq => .ok (left.equal right)
  | .ne => .ok (!left.equal right)
  | comparison => comparison.decideOrder left right

end Comparison

namespace Probe

variable {World Answer : Type}

def ofExcept : Except Failure Answer → Probe World Answer
  | .ok answer => pure answer
  | .error failure => fail failure

@[simp] theorem ofExcept_ok (answer : Answer) :
    (ofExcept (.ok answer) : Probe World Answer) = pure answer :=
  rfl

@[simp] theorem ofExcept_error (failure : Failure) :
    (ofExcept (.error failure) : Probe World Answer) = fail failure :=
  rfl

variable [Records World]

def memberOf (target : Value) (name : String) : Probe World Value :=
  match target with
  | .record record => readMember record name
  | .none => fail (.nullAccess name)
  | other => fail (.notARecord name other)

def callOn (target : Value) (method : String) (arguments : List Value) : Probe World Value :=
  match target with
  | .record record => callMethod record method arguments
  | .none => fail (.nullAccess (method ++ "()"))
  | other => fail (.notARecord (method ++ "()") other)

end Probe

end Criteria

import Criteria.Proofs.Compilation
import Criteria.Proofs.Numerals
import Criteria.Proofs.Sequence
import Criteria.Sample.Gallery

/-!
Sums of integers are exact or fail.

A sum may be joined in any shape. Whether it can be computed depends on the shape, because every
partial sum has to be an integer of 64 bits; what is computed does not. Operands are added as soon
as both of them are there, so the partial sums are made from left to right and the inner ones before
the outer ones, and the first one that does not fit ends the evaluation.
-/

namespace Criteria

/-! ## Integers that fit -/

namespace Number

def FitsInt64 (value : Int) : Prop :=
  -(int64Bound : Int) ≤ value ∧ value < int64Bound

instance (value : Int) : Decidable (FitsInt64 value) :=
  inferInstanceAs (Decidable (_ ∧ _))

private theorem exists_toInt64? {value : Int} (fits : FitsInt64 value) :
    ∃ converted, toInt64? value = some converted ∧ converted.toInt = value := by
  unfold FitsInt64 int64Bound at fits
  refine ⟨Int64.ofInt value, ?_, ?_⟩
  · rw [toInt64?, if_pos (by unfold int64Bound; omega)]
  · exact Int64.toInt_ofInt_of_le (by omega) (by omega)

private theorem toInt64?_of_not_fits {value : Int} (large : ¬ FitsInt64 value) :
    toInt64? value = none :=
  if_neg large

end Number

namespace Value

private theorem exists_add_ints {left right : Int64}
    (fits : Number.FitsInt64 (left.toInt + right.toInt)) :
    ∃ sum : Int64, sum.toInt = left.toInt + right.toInt ∧
      (Value.int left).add (.int right) = .ok (.int sum) := by
  rcases Number.exists_toInt64? fits with ⟨sum, converted, exact⟩
  refine ⟨sum, exact, ?_⟩
  simp [Value.add, addInts?, converted]

private theorem add_ints_of_not_fits {left right : Int64}
    (large : ¬ Number.FitsInt64 (left.toInt + right.toInt)) :
    (Value.int left).add (.int right) = .error (.arithmetic (.int left) (.int right)) := by
  simp [Value.add, addInts?, Number.toInt64?_of_not_fits large]

end Value

/-! ## Sums and their joints -/

structure Addend (World : Type) where
  term : Term World
  value : Int64

namespace Addend

variable {World : Type}

def total : List (Addend World) → Int
  | [] => 0
  | addend :: addends => addend.value.toInt + total addends

private theorem total_append (first second : List (Addend World)) :
    total (first ++ second) = total first + total second := by
  induction first with
  | nil => simp [total]
  | cons addend addends induction => simp [total, induction, Int.add_assoc]

private theorem total_perm {first second : List (Addend World)} (perm : first.Perm second) :
    total first = total second := by
  induction perm with
  | nil => rfl
  | cons addend _ induction => rw [total, total, induction]
  | swap first second addends =>
      simp only [total]
      omega
  | trans _ _ firstEqual secondEqual => rw [firstEqual, secondEqual]

end Addend

inductive Addition (World : Type) where
  | single (addend : Addend World)
  | plus (left right : Addition World)

/-- An addition within a sum: the addends of its operands, and those to the left of them. -/
structure Joint (World : Type) where
  before : List (Addend World)
  left : List (Addend World)
  right : List (Addend World)

namespace Joint

variable {World : Type}

/-- The addends that have been evaluated when the operands are added. -/
def reached (joint : Joint World) : List (Addend World) :=
  joint.before ++ joint.left ++ joint.right

def Fits (joint : Joint World) : Prop :=
  Number.FitsInt64 (Addend.total joint.left + Addend.total joint.right)

instance : DecidablePred (@Fits World) := fun joint =>
  inferInstanceAs (Decidable (Number.FitsInt64 (Addend.total joint.left + _)))

end Joint

namespace Addition

variable {World : Type}

def term : Addition World → Term World
  | .single addend => addend.term
  | .plus left right => .add left.term right.term

def addends : Addition World → List (Addend World)
  | .single addend => [addend]
  | .plus left right => left.addends ++ right.addends

/-- The additions from left to right, each one behind those within its operands. The given addends
stand to the left of the sum. -/
def joints (before : List (Addend World)) : Addition World → List (Joint World)
  | .single _ => []
  | .plus left right =>
      left.joints before ++ right.joints (before ++ left.addends) ++
        [⟨before, left.addends, right.addends⟩]

def overflow? (before : List (Addend World)) (sum : Addition World) : Option (Joint World) :=
  (sum.joints before).find? fun joint => ¬ joint.Fits

variable {before : List (Addend World)}

theorem overflow?_plus (left right : Addition World) :
    (plus left right).overflow? before =
      ((left.overflow? before).or (right.overflow? (before ++ left.addends))).or
        (if Joint.Fits ⟨before, left.addends, right.addends⟩ then none
        else some ⟨before, left.addends, right.addends⟩) := by
  by_cases fits : Joint.Fits ⟨before, left.addends, right.addends⟩ <;>
    simp [overflow?, joints, fits]

private theorem overflow?_eq_none_iff {sum : Addition World} :
    sum.overflow? before = none ↔ ∀ joint ∈ sum.joints before, joint.Fits := by
  simp [overflow?]

end Addition

/-! ## Addends in turn -/

section

variable {World : Type} [Records World] {scope : Scope} {world after : World}
  {touches : List Touch}

namespace Addend

/-- Evaluated from left to right, the addends give their integers, touch this, and leave that world
behind. -/
def Give (scope : Scope) (addends : List (Addend World)) (world : World) (touches : List Touch)
    (after : World) : Prop :=
  Probe.Answered (fun addend => addend.term.value scope) addends world
    (addends.map fun addend => .int addend.value) touches after

theorem give_single_iff {addend : Addend World} :
    Give scope [addend] world touches after ↔
      addend.term.value scope world = ⟨.ok (.int addend.value), touches, after⟩ := by
  constructor
  · intro give
    cases give with
    | cons ran rest =>
        cases rest
        rw [List.append_nil]
        exact ran
  · intro ran
    have give : Give scope [addend] world (touches ++ []) after := .cons ran .nil
    rwa [List.append_nil] at give

theorem Give.append {first second : List (Addend World)} {between : World} {more : List Touch}
    (begun : Give scope first world touches between)
    (continued : Give scope second between more after) :
    Give scope (first ++ second) world (touches ++ more) after := by
  unfold Give
  rw [List.map_append]
  exact Probe.Answered.append begun continued

theorem Give.parts {first second : List (Addend World)}
    (give : Give scope (first ++ second) world touches after) :
    ∃ begun continued between, touches = begun ++ continued ∧
      Give scope first world begun between ∧ Give scope second between continued after := by
  induction first generalizing world touches with
  | nil => exact ⟨[], touches, world, rfl, .nil, give⟩
  | cons addend addends induction =>
      cases give with
      | cons ran rest =>
          rcases induction rest with ⟨begun, continued, between, rfl, first, second⟩
          exact ⟨_, continued, between, (List.append_assoc _ _ _).symm, .cons ran first, second⟩

end Addend

/-! ## Additions that fit -/

namespace Addition

open Addend

/-- If every partial sum fits, the result is exact. -/
theorem value_of_fits {sum : Addition World} {before : List (Addend World)}
    (give : Give scope sum.addends world touches after) (fits : sum.overflow? before = none) :
    ∃ result : Int64, result.toInt = total sum.addends ∧
      sum.term.value scope world = ⟨.ok (.int result), touches, after⟩ := by
  induction sum generalizing world touches after before with
  | single addend =>
      have exact : addend.value.toInt = total [addend] := (Int.add_zero _).symm
      exact ⟨addend.value, exact, give_single_iff.mp give⟩
  | plus left right leftExact rightExact =>
      rw [overflow?_plus, Option.or_eq_none_iff, Option.or_eq_none_iff] at fits
      rcases fits with ⟨⟨leftFits, rightFits⟩, sumFits⟩
      rcases give.parts with ⟨begun, continued, between, rfl, leftGive, rightGive⟩
      rcases leftExact leftGive leftFits with ⟨leftResult, leftTotal, leftRan⟩
      rcases rightExact rightGive rightFits with ⟨rightResult, rightTotal, rightRan⟩
      split at sumFits
      case isTrue jointFits =>
          rw [Joint.Fits, ← leftTotal, ← rightTotal] at jointFits
          rcases Value.exists_add_ints jointFits with ⟨result, exact, added⟩
          refine ⟨result, by rw [exact, leftTotal, rightTotal, addends, total_append], ?_⟩
          rw [term, Term.value, Probe.bind_of_ok leftRan, Probe.bind_of_ok rightRan, added]
          simp [pure, Probe.done]
      case isFalse => cases sumFits

/-! ## The first addition that does not fit -/

/-- The run evaluates the addends that it reaches and nothing else, and it fails to add two
operands, which are exact sums. -/
def Overflows (scope : Scope) (reached : List (Addend World)) (left right : Int)
    (run : Probe World Value) (world : World) : Prop :=
  ∃ touches after, Give scope reached world touches after ∧
    ∃ leftResult rightResult : Int64, leftResult.toInt = left ∧ rightResult.toInt = right ∧
      run world = ⟨.error (.arithmetic (.int leftResult) (.int rightResult)), touches, after⟩

section

variable {left right : Term World} {first second : List (Addend World)} {leftSum rightSum : Int}

theorem Overflows.inLeft
    (overflows : Overflows scope first leftSum rightSum (left.value scope) world) :
    Overflows scope first leftSum rightSum ((Term.add left right).value scope) world := by
  rcases overflows with ⟨touches, after, give, leftResult, rightResult, leftExact, rightExact, ran⟩
  refine ⟨touches, after, give, leftResult, rightResult, leftExact, rightExact, ?_⟩
  rw [Term.value, Probe.bind_of_error ran]

private theorem Overflows.inRight {value : Value} (give : Give scope first world touches after)
    (leftRan : left.value scope world = ⟨.ok value, touches, after⟩)
    (overflows : Overflows scope second leftSum rightSum (right.value scope) after) :
    Overflows scope (first ++ second) leftSum rightSum ((Term.add left right).value scope)
      world := by
  rcases overflows with ⟨more, last, rest, leftResult, rightResult, leftExact, rightExact, ran⟩
  refine ⟨touches ++ more, last, give.append rest, leftResult, rightResult, leftExact, rightExact,
    ?_⟩
  rw [Term.value, Probe.bind_of_ok leftRan, Probe.bind_of_error ran]

private theorem overflows_add {leftResult rightResult : Int64} {last : World} {more : List Touch}
    (give : Give scope first world touches after) (rest : Give scope second after more last)
    (leftRan : left.value scope world = ⟨.ok (.int leftResult), touches, after⟩)
    (rightRan : right.value scope after = ⟨.ok (.int rightResult), more, last⟩)
    (large : ¬ Number.FitsInt64 (leftResult.toInt + rightResult.toInt)) :
    Overflows scope (first ++ second) leftResult.toInt rightResult.toInt
      ((Term.add left right).value scope) world := by
  refine ⟨touches ++ more, last, give.append rest, leftResult, rightResult, rfl, rfl, ?_⟩
  rw [Term.value, Probe.bind_of_ok leftRan, Probe.bind_of_ok rightRan,
    Value.add_ints_of_not_fits large]
  simp [Probe.fail]

end

theorem value_of_overflow {sum : Addition World} {before : List (Addend World)}
    {joint : Joint World} (give : Give scope sum.addends world touches after)
    (overflow : sum.overflow? before = some joint) :
    ∃ own, joint.reached = before ++ own ∧ own <+: sum.addends ∧
      Overflows scope own (total joint.left) (total joint.right) (sum.term.value scope) world := by
  induction sum generalizing world touches after before with
  | single addend => cases overflow
  | plus left right leftFails rightFails =>
      rcases give.parts with ⟨begun, continued, between, rfl, leftGive, rightGive⟩
      rw [overflow?_plus] at overflow
      cases leftFits : left.overflow? before with
      | some first =>
          rw [leftFits] at overflow
          cases overflow
          rcases leftFails leftGive leftFits with ⟨own, reached, initial, overflows⟩
          exact ⟨own, reached, initial.trans (List.prefix_append _ _), overflows.inLeft⟩
      | none =>
          rcases value_of_fits leftGive leftFits with ⟨leftResult, leftTotal, leftRan⟩
          cases rightFits : right.overflow? (before ++ left.addends) with
          | some first =>
              rw [leftFits, rightFits] at overflow
              cases overflow
              rcases rightFails rightGive rightFits with ⟨own, reached, initial, overflows⟩
              refine ⟨left.addends ++ own, ?_, ?_, overflows.inRight leftGive leftRan⟩
              · rw [reached, List.append_assoc]
              · exact (List.prefix_append_right_inj left.addends).mpr initial
          | none =>
              rcases value_of_fits rightGive rightFits with ⟨rightResult, rightTotal, rightRan⟩
              rw [leftFits, rightFits, Option.none_or, Option.none_or] at overflow
              split at overflow
              case isTrue => cases overflow
              case isFalse large =>
                  cases overflow
                  rw [Joint.Fits, ← leftTotal, ← rightTotal] at large
                  refine ⟨left.addends ++ right.addends, ?_, List.prefix_rfl, ?_⟩
                  · exact List.append_assoc _ _ _
                  · rw [← leftTotal, ← rightTotal]
                    exact overflows_add leftGive rightGive leftRan rightRan large

/-! ## Both ways to evaluate -/

def ways (scope : Scope) (sum : Addition World) : List (Probe World Value) :=
  [sum.term.value scope, (sum.term.compile scope.bound).value scope.entity]

private theorem eq_of_mem_ways {sum : Addition World} {run : Probe World Value}
    (member : run ∈ sum.ways scope) : run = sum.term.value scope := by
  simpa [ways, (sum.term.compile_refines scope).value] using member

private theorem total_of_answer {sum : Addition World} {result : Value}
    (give : Give scope sum.addends world touches after)
    (answered : (sum.term.value scope world).answer = .ok result) :
    ∃ integer : Int64, result = .int integer ∧ integer.toInt = total sum.addends := by
  cases overflow : sum.overflow? [] with
  | none =>
      rcases value_of_fits give overflow with ⟨integer, exact, ran⟩
      rw [ran] at answered
      cases answered
      exact ⟨integer, rfl, exact⟩
  | some joint =>
      rcases value_of_overflow give overflow with ⟨_, _, _, _, _, _, _, _, _, _, ran⟩
      rw [ran] at answered
      cases answered

/-- A sum of integers is exact or fails, however it is joined and however it is evaluated. If every
partial sum is an integer of 64 bits, the value is the exact sum, and the addends are evaluated and
nothing else. Otherwise the first partial sum that is none fails on the exact sums of its operands,
and no addend to the right of them is evaluated. A value is never anything but the exact sum, so
the same addends in another shape, or in another order, do not have another value. -/
theorem sums_exact_or_fail {sum : Addition World}
    (give : Give scope sum.addends world touches after) {run : Probe World Value}
    (way : run ∈ sum.ways scope) :
    ((∀ joint ∈ sum.joints [], joint.Fits) → ∃ result : Int64,
      result.toInt = total sum.addends ∧ run world = ⟨.ok (.int result), touches, after⟩) ∧
    (¬ (∀ joint ∈ sum.joints [], joint.Fits) → ∃ joint, sum.overflow? [] = some joint ∧
      joint.reached <+: sum.addends ∧
      Overflows scope joint.reached (total joint.left) (total joint.right) run world) ∧
    (∀ value, (run world).answer = .ok value →
      ∃ result : Int64, value = .int result ∧ result.toInt = total sum.addends) ∧
    ∀ (other : Addition World) (otherWorld : World) (otherTouches : List Touch)
      (otherAfter : World), other.addends.Perm sum.addends →
      Give scope other.addends otherWorld otherTouches otherAfter →
      ∀ otherRun ∈ other.ways scope, ∀ value otherValue, (run world).answer = .ok value →
        (otherRun otherWorld).answer = .ok otherValue → value = otherValue := by
  rw [eq_of_mem_ways way]
  refine ⟨?_, ?_, ?_, ?_⟩
  · intro fits
    exact value_of_fits give (overflow?_eq_none_iff.mpr fits)
  · intro large
    rw [← overflow?_eq_none_iff] at large
    rcases Option.ne_none_iff_exists'.mp large with ⟨joint, overflow⟩
    rcases value_of_overflow give overflow with ⟨own, reached, initial, overflows⟩
    rw [List.nil_append] at reached
    rw [← reached] at initial overflows
    exact ⟨joint, overflow, initial, overflows⟩
  · intro value answered
    exact total_of_answer give answered
  · intro other otherWorld otherTouches otherAfter perm otherGive otherRun otherWay value otherValue
      answered otherAnswered
    rw [eq_of_mem_ways otherWay] at otherAnswered
    rcases total_of_answer give answered with ⟨result, rfl, exact⟩
    rcases total_of_answer otherGive otherAnswered with ⟨otherResult, rfl, otherExact⟩
    rw [total_perm perm, ← exact] at otherExact
    rw [Int64.toInt_inj.mp otherExact]

end Addition

end

namespace Addition

open Sample Addend

def largestHolder : Gallery :=
  ⟨#[.openRecord ⟨[("most", .int Int64.maxValue)], []⟩]⟩

def largest : Addend Gallery :=
  ⟨.member (.var ⟨0, "x"⟩) "most", Int64.maxValue⟩

def constant (value : Int64) : Addend Gallery :=
  ⟨.int value, value⟩

def upAndDown : Addition Gallery :=
  .plus (.plus (.single largest) (.single (constant 1))) (.single (constant (-1)))

def regrouped : Addition Gallery :=
  .plus (.single largest) (.plus (.single (constant 1)) (.single (constant (-1))))

def largestScope : Scope :=
  ⟨⟨0, "x"⟩, ⟨0⟩⟩

theorem upAndDown_fails_regrouped_adds :
    Give largestScope upAndDown.addends largestHolder [.member ⟨0⟩ "most"] largestHolder ∧
    (∃ joint, upAndDown.overflow? [] = some joint ∧ joint.reached <+: upAndDown.addends ∧
      Overflows largestScope joint.reached (total joint.left) (total joint.right)
        (upAndDown.term.value largestScope) largestHolder) ∧
    ∃ result : Int64, result.toInt = total regrouped.addends ∧
      regrouped.term.value largestScope largestHolder =
        ⟨.ok (.int result), [.member ⟨0⟩ "most"], largestHolder⟩ := by
  have reads : Give largestScope [largest] largestHolder [.member ⟨0⟩ "most"] largestHolder :=
    give_single_iff.mpr rfl
  have known (value : Int64) : Give largestScope [constant value] largestHolder [] largestHolder :=
    give_single_iff.mpr rfl
  have give : Give largestScope upAndDown.addends largestHolder [.member ⟨0⟩ "most"]
      largestHolder := (reads.append (known 1)).append (known (-1))
  have regroupedGive : Give largestScope regrouped.addends largestHolder [.member ⟨0⟩ "most"]
      largestHolder := give
  have large : ¬ (∀ joint ∈ upAndDown.joints [], joint.Fits) := by decide
  have fits : ∀ joint ∈ regrouped.joints [], joint.Fits := by decide
  exact ⟨give, (sums_exact_or_fail give List.mem_cons_self).2.1 large,
    (sums_exact_or_fail regroupedGive List.mem_cons_self).1 fits⟩

end Addition

end Criteria

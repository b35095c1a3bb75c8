import Mathlib.Data.Bool.Basic
import Criteria.Proofs.Sameness
import Criteria.Term.Operation

/-!
Comparisons of values without floats.

Equality looks into lists and knows records; the order knows neither. What the two have in common
are five kinds of values, each ordered like its keys. Such a kind is a scale. On one scale all six
comparisons ask one question about the order of two keys. Off the scales only equality has an
answer, and an ordering is refused, unless a value is missing.
-/

namespace Criteria

/-! ## The order of keys -/

namespace Value

section

variable {Key : Type} [LT Key] [DecidableLT Key] {left right : Key}

theorem orderBy_eq_lt_iff : orderBy left right = .lt ↔ left < right := by
  unfold orderBy
  split
  case isTrue less => exact ⟨fun _ => less, fun _ => rfl⟩
  case isFalse notLess =>
    constructor
    · intro equal
      split at equal <;> cases equal
    · exact fun less => absurd less notLess

variable [LE Key] [Std.IsLinearOrder Key] [Std.LawfulOrderLT Key]

theorem orderBy_eq_eq_iff : orderBy left right = .eq ↔ left = right := by
  constructor
  · intro equal
    unfold orderBy at equal
    split at equal
    · cases equal
    case isFalse notLess =>
      split at equal
      · cases equal
      case isFalse notMore =>
        exact Std.le_antisymm (Std.not_lt.mp notMore) (Std.not_lt.mp notLess)
  · rintro rfl
    rw [orderBy, if_neg Std.lt_irrefl, if_neg Std.lt_irrefl]

theorem orderBy_swap (left right : Key) : orderBy right left = (orderBy left right).swap := by
  rcases Std.lt_trichotomy left right with less | rfl | more
  · have notMore : ¬ right < left := fun more => Std.lt_irrefl (Std.lt_trans less more)
    rw [orderBy, if_neg notMore, if_pos less, orderBy_eq_lt_iff.mpr less]
    rfl
  · rw [orderBy_eq_eq_iff.mpr rfl]
    rfl
  · have notLess : ¬ left < right := fun less => Std.lt_irrefl (Std.lt_trans less more)
    rw [orderBy_eq_lt_iff.mpr more, orderBy, if_neg notLess, if_pos more]
    rfl

end

end Value

/-! ## Scales -/

/-- A kind of values that has an order. The values stand for keys, and they are equal and ordered
as their keys are. -/
structure Scale where
  Key : Type
  [lessOrEqual : LE Key]
  [less : LT Key]
  [decidesLess : DecidableLT Key]
  [linear : Std.IsLinearOrder Key]
  [lawful : Std.LawfulOrderLT Key]
  value : Key → Value
  kind : String
  kind_value : ∀ key, (value key).kind = kind
  equal_value : ∀ left right, (value left).equal (value right) ↔ left = right
  order_value : ∀ left right, (value left).order (value right) = some (Value.orderBy left right)

attribute [instance] Scale.lessOrEqual Scale.less Scale.decidesLess Scale.linear Scale.lawful

namespace Scale

def bool : Scale where
  Key := Bool
  value := .bool
  kind := "bool"
  kind_value _ := rfl
  equal_value left right := by simp [Value.equal]
  order_value left right := by cases left <;> cases right <;> rfl

def int : Scale where
  Key := Int64
  value := .int
  kind := "int"
  kind_value _ := rfl
  equal_value left right := by simp [Value.equal]
  order_value _ _ := rfl

def string : Scale where
  Key := String
  value := .string
  kind := "string"
  kind_value _ := rfl
  equal_value left right := by simp [Value.equal]
  order_value _ _ := rfl

def date : Scale where
  Key := Int32
  value := .date
  kind := "date"
  kind_value _ := rfl
  equal_value left right := by simp [Value.equal]
  order_value _ _ := rfl

def datetime : Scale where
  Key := Int64
  value := .datetime
  kind := "datetime"
  kind_value _ := rfl
  equal_value left right := by simp [Value.equal]
  order_value _ _ := rfl

variable (scale : Scale)

theorem isNone_value (key : scale.Key) : (scale.value key).isNone = false := by
  have ordered := scale.order_value key key
  cases found : scale.value key with
  | none =>
      rw [found] at ordered
      cases ordered
  | _ => rfl

theorem apply_value (comparison : Comparison) (left right : scale.Key) :
    comparison.apply (scale.value left) (scale.value right) =
      .ok (comparison.accepts (Value.orderBy left right)) := by
  have equal : (scale.value left).equal (scale.value right) =
      (Value.orderBy left right == .eq) := by
    rw [Bool.eq_iff_iff, scale.equal_value, beq_iff_eq, Value.orderBy_eq_eq_iff]
  have ordered : comparison.decideOrder (scale.value left) (scale.value right) =
      .ok (comparison.accepts (Value.orderBy left right)) := by
    rw [Comparison.decideOrder, scale.isNone_value, scale.isNone_value, scale.order_value]
    rfl
  cases comparison with
  | eq => exact congrArg Except.ok equal
  | ne => exact congrArg (fun verdict => Except.ok (!verdict)) equal
  | _ => exact ordered

end Scale

namespace Value

inductive OfOneKind : Value → Value → Prop where
  | bool (left right : Bool) : OfOneKind (.bool left) (.bool right)
  | int (left right : Int64) : OfOneKind (.int left) (.int right)
  | string (left right : String) : OfOneKind (.string left) (.string right)
  | date (left right : Int32) : OfOneKind (.date left) (.date right)
  | datetime (left right : Int64) : OfOneKind (.datetime left) (.datetime right)

namespace OfOneKind

variable {left middle right : Value}

theorem exists_scale (ofOneKind : OfOneKind left right) :
    ∃ (scale : Scale) (leftKey rightKey : scale.Key),
      left = scale.value leftKey ∧ right = scale.value rightKey := by
  cases ofOneKind with
  | bool left right => exact ⟨.bool, left, right, rfl, rfl⟩
  | int left right => exact ⟨.int, left, right, rfl, rfl⟩
  | string left right => exact ⟨.string, left, right, rfl, rfl⟩
  | date left right => exact ⟨.date, left, right, rfl, rfl⟩
  | datetime left right => exact ⟨.datetime, left, right, rfl, rfl⟩

private theorem exists_common_scale (first : OfOneKind left middle)
    (second : OfOneKind middle right) :
    ∃ (scale : Scale) (leftKey middleKey rightKey : scale.Key),
      left = scale.value leftKey ∧ middle = scale.value middleKey ∧
        right = scale.value rightKey := by
  cases first with
  | bool left middle => cases second with
    | bool _ right => exact ⟨.bool, left, middle, right, rfl, rfl, rfl⟩
  | int left middle => cases second with
    | int _ right => exact ⟨.int, left, middle, right, rfl, rfl, rfl⟩
  | string left middle => cases second with
    | string _ right => exact ⟨.string, left, middle, right, rfl, rfl, rfl⟩
  | date left middle => cases second with
    | date _ right => exact ⟨.date, left, middle, right, rfl, rfl, rfl⟩
  | datetime left middle => cases second with
    | datetime _ right => exact ⟨.datetime, left, middle, right, rfl, rfl, rfl⟩

private theorem symm (ofOneKind : OfOneKind left right) : OfOneKind right left := by
  cases ofOneKind with
  | bool left right => exact .bool right left
  | int left right => exact .int right left
  | string left right => exact .string right left
  | date left right => exact .date right left
  | datetime left right => exact .datetime right left

end OfOneKind

theorem ofOneKind_of_order {left right : Value} {ordering : Ordering} (leftFree : left.isFloatFree)
    (rightFree : right.isFloatFree) (ordered : left.order right = some ordering) :
    OfOneKind left right := by
  cases left <;> cases right <;>
    first | constructor | simp_all [order, isFloatFree]

end Value

/-! ## Orderings off the scales -/

namespace Comparison

def isOrdering : Comparison → Bool
  | .eq => false
  | .ne => false
  | _ => true

variable {comparison : Comparison} {left right : Value}

theorem apply_of_isOrdering (ordering : comparison.isOrdering) (left right : Value) :
    comparison.apply left right = comparison.decideOrder left right := by
  cases comparison with
  | eq => cases ordering
  | ne => cases ordering
  | _ => rfl

theorem apply_of_missing (ordering : comparison.isOrdering) (missing : left.isNone ∨ right.isNone) :
    comparison.apply left right = .ok false := by
  rw [apply_of_isOrdering ordering, decideOrder, if_pos (Bool.or_eq_true_iff.mpr missing)]

theorem apply_of_unrelated (ordering : comparison.isOrdering) (leftFree : left.isFloatFree)
    (rightFree : right.isFloatFree) (present : ¬ (left.isNone ∨ right.isNone))
    (unrelated : ¬ Value.OfOneKind left right) :
    comparison.apply left right = .error (.incomparable left right) := by
  have unordered : left.order right = none := by
    cases found : left.order right with
    | none => rfl
    | some ordering =>
        exact absurd (Value.ofOneKind_of_order leftFree rightFree found) unrelated
  have noNumbers : ¬ (left.number?.isSome && right.number?.isSome) := by
    intro numbers
    cases left <;> cases right <;>
      first | exact unrelated (.int _ _) | simp_all [Value.number?, Value.isFloatFree]
  rw [apply_of_isOrdering ordering, decideOrder,
    if_neg (mt Bool.or_eq_true_iff.mp present), unordered]
  exact if_neg noNumbers

theorem ofOneKind_of_lt (leftFree : left.isFloatFree) (rightFree : right.isFloatFree)
    (less : Comparison.lt.apply left right = .ok true) : Value.OfOneKind left right := by
  by_cases missing : left.isNone ∨ right.isNone
  · rw [apply_of_missing rfl missing] at less
    cases less
  · refine Classical.byContradiction fun unrelated => ?_
    rw [apply_of_unrelated rfl leftFree rightFree missing unrelated] at less
    cases less

/-! ## Mirrored comparisons -/

def mirrored : Comparison → Comparison
  | .eq => .eq
  | .ne => .ne
  | .lt => .gt
  | .le => .ge
  | .gt => .lt
  | .ge => .le

private theorem accepts_mirrored (comparison : Comparison) (ordering : Ordering) :
    comparison.mirrored.accepts ordering.swap = comparison.accepts ordering := by
  cases comparison <;> cases ordering <;> rfl

private theorem isOrdering_mirrored (comparison : Comparison) :
    comparison.mirrored.isOrdering = comparison.isOrdering := by
  cases comparison <;> rfl

end Comparison

def Failure.mirrored : Failure → Failure
  | .incomparable left right => .incomparable right left
  | failure => failure

/-! ## The laws -/

namespace Value

abbrev FloatFree := { value : Value // value.isFloatFree }

end Value

namespace Comparison

private theorem eq_equivalence : Equivalence fun left right : Value.FloatFree =>
    Comparison.eq.apply left.val right.val = .ok true := by
  have holds_iff (left right : Value.FloatFree) :
      Comparison.eq.apply left.val right.val = .ok true ↔ left.val = right.val := by
    rw [← Value.equal_iff_eq left.property right.property, apply, Except.ok.injEq]
  constructor
  · intro value
    exact (holds_iff value value).mpr rfl
  · intro left right equal
    exact (holds_iff right left).mpr ((holds_iff left right).mp equal).symm
  · intro first second third left right
    exact (holds_iff first third).mpr
      (((holds_iff first second).mp left).trans ((holds_iff second third).mp right))

variable {left middle right : Value}

theorem exists_verdicts (ofOneKind : Value.OfOneKind left right) :
    ∃ less same more : Bool,
      Comparison.lt.apply left right = .ok less ∧ Comparison.eq.apply left right = .ok same ∧
      Comparison.gt.apply left right = .ok more ∧ Comparison.le.apply left right = .ok (!more) ∧
      Comparison.ge.apply left right = .ok (!less) ∧ [less, same, more].count true = 1 := by
  rcases ofOneKind.exists_scale with ⟨scale, leftKey, rightKey, rfl, rfl⟩
  simp only [scale.apply_value]
  refine ⟨_, _, _, rfl, rfl, rfl, rfl, rfl, ?_⟩
  cases Value.orderBy leftKey rightKey <;> rfl

private theorem lt_apply_trans (leftFree : left.isFloatFree) (middleFree : middle.isFloatFree)
    (rightFree : right.isFloatFree) (first : Comparison.lt.apply left middle = .ok true)
    (second : Comparison.lt.apply middle right = .ok true) :
    Comparison.lt.apply left right = .ok true := by
  have firstKind := ofOneKind_of_lt leftFree middleFree first
  have secondKind := ofOneKind_of_lt middleFree rightFree second
  rcases firstKind.exists_common_scale secondKind with
    ⟨scale, leftKey, middleKey, rightKey, rfl, rfl, rfl⟩
  have less_iff (one other : scale.Key) :
      Comparison.lt.apply (scale.value one) (scale.value other) = .ok true ↔ one < other := by
    rw [scale.apply_value, Except.ok.injEq, accepts, beq_iff_eq, Value.orderBy_eq_lt_iff]
  rw [less_iff] at first second ⊢
  exact Std.lt_trans first second

theorem mirrored_apply (comparison : Comparison) (leftFree : left.isFloatFree)
    (rightFree : right.isFloatFree) :
    comparison.mirrored.apply right left =
      (comparison.apply left right).mapError Failure.mirrored := by
  have equal_comm : right.equal left = left.equal right := by
    rw [Bool.eq_iff_iff, Value.equal_iff_eq rightFree leftFree,
      Value.equal_iff_eq leftFree rightFree]
    exact eq_comm
  by_cases ordering : comparison.isOrdering
  · have mirroredOrdering : comparison.mirrored.isOrdering := by rwa [isOrdering_mirrored]
    by_cases missing : left.isNone ∨ right.isNone
    · rw [apply_of_missing ordering missing, apply_of_missing mirroredOrdering missing.symm]
      rfl
    · by_cases related : Value.OfOneKind left right
      · rcases related.exists_scale with ⟨scale, leftKey, rightKey, rfl, rfl⟩
        rw [scale.apply_value, scale.apply_value, Value.orderBy_swap, accepts_mirrored]
        rfl
      · have mirroredUnrelated := fun related' : Value.OfOneKind right left =>
          related related'.symm
        rw [apply_of_unrelated ordering leftFree rightFree missing related,
          apply_of_unrelated mirroredOrdering rightFree leftFree (mt Or.symm missing)
            mirroredUnrelated]
        rfl
  · cases comparison with
    | eq => exact congrArg Except.ok equal_comm
    | ne => exact congrArg (fun verdict => Except.ok (!verdict)) equal_comm
    | _ => exact absurd rfl ordering

/-- The laws of comparing values without floats, missing values, lists and records included.

Equality never fails and is an equivalence, and inequality is its negation. An ordering is false
where a value is missing. Between two values of one ordered kind no comparison fails: exactly one of
less, equal and more holds, and the other two orderings are negations of these. Between all others
an ordering fails and names both values, in their order. Less is transitive, and to exchange the
values and to mirror the comparison changes nothing but the order of the values in a failure. -/
theorem comparison_laws :
    (Equivalence fun left right : Value.FloatFree =>
      Comparison.eq.apply left.val right.val = .ok true) ∧
    (∀ left right : Value.FloatFree, ∃ verdict,
      Comparison.eq.apply left.val right.val = .ok verdict ∧
      Comparison.ne.apply left.val right.val = .ok (!verdict)) ∧
    (∀ left right : Value.FloatFree, ∀ comparison : Comparison, comparison.isOrdering →
      left.val.isNone ∨ right.val.isNone → comparison.apply left.val right.val = .ok false) ∧
    (∀ left right : Value.FloatFree, Value.OfOneKind left.val right.val →
      ∃ less same more : Bool,
        Comparison.lt.apply left.val right.val = .ok less ∧
        Comparison.eq.apply left.val right.val = .ok same ∧
        Comparison.gt.apply left.val right.val = .ok more ∧
        Comparison.le.apply left.val right.val = .ok (!more) ∧
        Comparison.ge.apply left.val right.val = .ok (!less) ∧
        [less, same, more].count true = 1) ∧
    (∀ left right : Value.FloatFree, ¬ (left.val.isNone ∨ right.val.isNone) →
      ¬ Value.OfOneKind left.val right.val → ∀ comparison : Comparison, comparison.isOrdering →
      ∃ failure, comparison.apply left.val right.val = .error failure ∧
        failure = .incomparable left.val right.val ∧ failure.message =
          "cannot compare " ++ left.val.describe ++ " with " ++ right.val.describe) ∧
    (∀ first second third : Value.FloatFree,
      Comparison.lt.apply first.val second.val = .ok true →
      Comparison.lt.apply second.val third.val = .ok true →
      Comparison.lt.apply first.val third.val = .ok true) ∧
    ∀ (left right : Value.FloatFree) (comparison : Comparison),
      comparison.mirrored.apply right.val left.val =
        (comparison.apply left.val right.val).mapError Failure.mirrored := by
  refine ⟨eq_equivalence, ?_, ?_, ?_, ?_, ?_, ?_⟩
  · intro left right
    exact ⟨_, rfl, rfl⟩
  · intro left right comparison ordering missing
    exact apply_of_missing ordering missing
  · intro left right ofOneKind
    exact exists_verdicts ofOneKind
  · intro left right present unrelated comparison ordering
    have failed :=
      apply_of_unrelated ordering left.property right.property present unrelated
    exact ⟨_, failed, rfl, rfl⟩
  · intro first second third less lessAgain
    exact lt_apply_trans first.property second.property third.property less lessAgain
  · intro left right comparison
    exact mirrored_apply comparison left.property right.property

/-- A date and a date-time have no order, and neither way of comparing them says otherwise. -/
theorem date_and_datetime_refused :
    Comparison.le.apply (.date 3) (.datetime 3) = .error (.incomparable (.date 3) (.datetime 3)) ∧
    Comparison.ge.apply (.datetime 3) (.date 3) = .error (.incomparable (.datetime 3) (.date 3)) ∧
    Comparison.lt.apply (.string "a") (.string "b") = .ok true := by
  rcases comparison_laws with ⟨_, _, _, _, refused, transitive, mirrored⟩
  have unrelated : ¬ Value.OfOneKind (.date 3) (.datetime 3) := nofun
  rcases refused ⟨.date 3, rfl⟩ ⟨.datetime 3, rfl⟩ (by decide) unrelated .le rfl with
    ⟨failure, failed, rfl, _⟩
  have exchanged := mirrored ⟨.date 3, rfl⟩ ⟨.datetime 3, rfl⟩ .le
  rw [failed] at exchanged
  have between := transitive ⟨.string "a", rfl⟩ ⟨.string "ab", rfl⟩ ⟨.string "b", rfl⟩
    rfl rfl
  exact ⟨failed, exchanged, between⟩

end Comparison

end Criteria

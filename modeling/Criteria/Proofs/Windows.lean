import Criteria.Proofs.Leaves
import Criteria.Proofs.OrderedValues
import Criteria.Property.Temporal

/-!
Half-open windows tile the time line.

Consecutive bounds in ascending order cut the line between the first and the last of them into
windows. The start belongs to a window and the finish does not, so a key between the outer bounds
lies in exactly one window, also on an inner bound and also where windows are empty, and any other
key lies in none. A count, a disjunction and one wide window therefore give one verdict, and they
fail together.
-/

namespace Criteria

/-! ## Windows over keys -/

section

variable {Key : Type} [LT Key] [DecidableLT Key]

def inWindow (key : Key) (window : Key × Key) : Bool :=
  !decide (key < window.1) && decide (key < window.2)

variable [LE Key] [Std.IsLinearOrder Key] [Std.LawfulOrderLT Key]

private theorem inWindow_iff {key start finish : Key} :
    inWindow key (start, finish) ↔ start ≤ key ∧ key < finish := by
  rw [inWindow, Bool.and_eq_true, Bool.not_eq_true', decide_eq_false_iff_not, Std.not_lt,
    decide_eq_true_iff]

omit [LT Key] [DecidableLT Key] [Std.LawfulOrderLT Key] in
private theorem le_last_of_ascending {first : Key} {later : List Key}
    (ascending : (first :: later).Pairwise (· ≤ ·)) : first ≤ later.getLastD first := by
  have listed : later.getLastD first ∈ first :: later := List.getLastD_mem_cons
  rcases List.mem_cons.mp listed with same | member
  · rw [same]
    exact Std.le_refl first
  · exact List.rel_of_pairwise_cons ascending member

/-- A key is in one of the windows if it is between the outer bounds, and in none otherwise. The
cases are where the key lies with regard to the first window. -/
theorem countP_inWindow {first : Key} {later : List Key}
    (ascending : (first :: later).Pairwise (· ≤ ·)) (key : Key) :
    ((first :: later).zip later).countP (inWindow key) =
      if inWindow key (first, later.getLastD first) then 1 else 0 := by
  induction later generalizing first with
  | nil =>
      have empty : inWindow key (first, first) = false := Bool.not_and_self _
      rw [List.zip_nil_right, List.countP_nil, List.getLastD_nil, empty]
      rfl
  | cons next rest induction =>
      rcases List.pairwise_cons.mp ascending with ⟨below, tailAscending⟩
      have firstBelow : first ≤ next := below next List.mem_cons_self
      have nextBelow := le_last_of_ascending tailAscending
      rw [List.zip_cons_cons, List.countP_cons, induction tailAscending, List.getLastD_cons]
      by_cases early : key < next
      · have beforeLast : key < rest.getLastD next := Std.lt_of_lt_of_le early nextBelow
        have notLater : inWindow key (next, rest.getLastD next) = false := by
          rw [inWindow, decide_eq_true early]
          rfl
        have same : inWindow key (first, rest.getLastD next) = inWindow key (first, next) := by
          rw [inWindow, inWindow, decide_eq_true early, decide_eq_true beforeLast]
        rw [notLater, same, if_neg Bool.false_ne_true, Nat.zero_add]
      · have behindFirst : ¬ key < first :=
          Std.not_lt.mpr (Std.le_trans firstBelow (Std.not_lt.mp early))
        have notFirst : inWindow key (first, next) = false := by
          rw [inWindow, decide_eq_false early, Bool.and_false]
        have same : inWindow key (first, rest.getLastD next) =
            inWindow key (next, rest.getLastD next) := by
          rw [inWindow, inWindow, decide_eq_false behindFirst, decide_eq_false early]
        rw [notFirst, same, if_neg Bool.false_ne_true, Nat.add_zero]

end

/-! ## Windows over values -/

namespace Scale

variable {scale : Scale}

/-- The scales of points in time. -/
def IsTemporal (scale : Scale) : Prop :=
  scale = .date ∨ scale = .datetime

private theorem IsTemporal.order_of_other (temporal : scale.IsTemporal) {value : Value}
    (other : value.kind ≠ scale.kind) (key : scale.Key) : value.order (scale.value key) = none := by
  rcases temporal with rfl | rfl
  · cases value with
    | date day => exact absurd rfl other
    | _ => rfl
  · cases value with
    | datetime millisecond => exact absurd rfl other
    | _ => rfl

private theorem IsTemporal.exists_key (temporal : scale.IsTemporal) {value : Value}
    (same : value.kind = scale.kind) : ∃ key, value = scale.value key := by
  rcases temporal with rfl | rfl
  · cases value with
    | date day => exact ⟨day, rfl⟩
    | _ => exact absurd same (by simp [Value.kind, date])
  · cases value with
    | datetime millisecond => exact ⟨millisecond, rfl⟩
    | _ => exact absurd same (by simp [Value.kind, datetime])

end Scale

namespace Property

variable {scale : Scale}

def isWithinKeys (scale : Scale) (window : scale.Key × scale.Key) : Value → Except Failure Bool :=
  isWithin (scale.value window.1) (scale.value window.2)

private theorem isWithinKeys_value (window : scale.Key × scale.Key) (key : scale.Key) :
    isWithinKeys scale window (scale.value key) = .ok (inWindow key window) := by
  have against (bound : scale.Key) : orderAgainst "within" (scale.value bound) (scale.value key) =
      .ok (some (Value.orderBy key bound)) := by
    rw [orderAgainst, scale.isNone_value, scale.order_value]
    rfl
  have below (bound : scale.Key) : decide (key < bound) = (Value.orderBy key bound == .lt) := by
    rw [Bool.eq_iff_iff, decide_eq_true_iff, beq_iff_eq, Value.orderBy_eq_lt_iff]
  rw [isWithinKeys, isWithin, against, against, inWindow, below, below]
  change Except.ok _ = _
  cases Value.orderBy key window.1 <;> cases Value.orderBy key window.2 <;> rfl

private theorem isWithinKeys_of_other (temporal : scale.IsTemporal) (window : scale.Key × scale.Key)
    {value : Value} (present : value.isNone = false) (other : value.kind ≠ scale.kind) :
    isWithinKeys scale window value =
      .error (.leaf "within" ("cannot order " ++ value.kind ++ " against " ++ scale.kind)) := by
  rw [isWithinKeys, isWithin, orderAgainst, present, temporal.order_of_other other,
    scale.kind_value]
  rfl

theorem exists_verdicts_of_windows (temporal : scale.IsTemporal) {first : scale.Key}
    {later : List scale.Key} (ascending : (first :: later).Pairwise (· ≤ ·)) {value : Value}
    (ordered : value.isNone ∨ value.kind = scale.kind) :
    ∃ (own : scale.Key × scale.Key → Bool) (verdict : Bool),
      (∀ window, isWithinKeys scale window value = .ok (own window)) ∧
      isWithinKeys scale (first, later.getLastD first) value = .ok verdict ∧
      (((first :: later).zip later).map own).count true = (if verdict then 1 else 0) ∧
      (value.isNone → verdict = false) ∧
      ∀ key, value = scale.value key → (verdict ↔ first ≤ key ∧ key < later.getLastD first) := by
  rcases ordered with missing | same
  · have equal : value = .none := by
      cases value with
      | none => rfl
      | _ => cases missing
    rw [equal]
    refine ⟨fun _ => false, false, fun _ => rfl, rfl, ?_, fun _ => rfl, ?_⟩
    · rw [List.map_const', List.count_replicate]
      rfl
    · intro key onScale
      have present := scale.isNone_value key
      rw [← onScale] at present
      cases present
  · rcases temporal.exists_key same with ⟨key, rfl⟩
    refine ⟨inWindow key, inWindow key (first, later.getLastD first),
      fun window => isWithinKeys_value window key, isWithinKeys_value _ key, ?_, ?_, ?_⟩
    · rw [← countP_inWindow ascending, List.count_eq_countP, List.countP_map]
      congr 1
      funext window
      simp
    · intro missing
      rw [scale.isNone_value] at missing
      cases missing
    · intro other equal
      have equalKeys : (scale.value key).equal (scale.value other) := by
        rw [← equal]
        exact (scale.equal_value key key).mpr rfl
      rw [← (scale.equal_value key other).mp equalKeys]
      exact inWindow_iff

private theorem any_of_count {verdicts : List Bool} {whole : Bool}
    (counted : verdicts.count true = if whole then 1 else 0) : verdicts.any id = whole := by
  have held : verdicts.any id ↔ 0 < verdicts.count true := by
    rw [List.any_eq_true, List.count_pos_iff]
    constructor
    · rintro ⟨verdict, member, rfl⟩
      exact member
    · intro member
      exact ⟨true, member, rfl⟩
  rw [Bool.eq_iff_iff, held, counted]
  cases whole <;> decide

variable {World : Type} [Records World]

open Criterion (MadeBefore LeavesOf)

/-- Windows between consecutive bounds, for any two or more bounds in ascending order that are all
dates or all date-times.

Whether exactly one window holds, whether any of them holds, and whether the one window from the
first bound to the last holds is one question. It fails when reading the path fails, and with that
failure. It fails as the single window does when there is a value of another kind than the bounds.
Otherwise, where the path can be read again, a missing value is in no window, and a point in time is
in one if it is not before the first bound and before the last one. It is never in two. -/
theorem windows_tile_the_line (property : Property) (scale : Scale)
    (temporal : scale.IsTemporal) (first : scale.Key) (later : List scale.Key)
    (several : later ≠ []) (ascending : (first :: later).Pairwise (· ≤ ·)) (supply : Supply)
    (whole : Criterion World) (windows : List (Criterion World))
    (wholeMade : MadeBefore supply
      (property.within (scale.value first) (scale.value (later.getLastD first))) whole)
    (windowsMade : List.Forall₂ (fun window => MadeBefore supply
      (property.within (scale.value window.1) (scale.value window.2)))
      ((first :: later).zip later) windows) :
    ∃ exact any most, (Criterion.counting (.exactly 1) windows supply).1 = .ok exact ∧
      (Criterion.anyOf windows supply).1 = .ok any ∧
      (Criterion.counting (.atMost 1) windows supply).1 = .ok most ∧
      ∀ entity,
        (∀ world failure, (property.path.valueAt entity world).answer = .error failure →
          ∀ criterion ∈ [exact, any, whole, most],
            criterion.answerOn entity world = .error failure) ∧
        (∀ world value, (property.path.valueAt entity world).answer = .ok value →
          value.isNone = false → value.kind ≠ scale.kind →
          ∀ criterion ∈ [exact, any, whole, most],
            criterion.answerOn entity world = .error (.leaf "within"
              ("cannot order " ++ value.kind ++ " against " ++ scale.kind))) ∧
        ∀ steady value, (property.path.valueAt entity).Settles steady (.ok value) →
          value.isNone ∨ value.kind = scale.kind → ∀ world, steady world →
          ∃ verdict, (∀ criterion ∈ [exact, any, whole],
              criterion.answerOn entity world = .ok verdict) ∧
            most.answerOn entity world = .ok true ∧
            (value.isNone → verdict = false) ∧
            ∀ key, value = scale.value key →
              (verdict ↔ first ≤ key ∧ key < later.getLastD first) := by
  have wholeLeaf : whole.Leaf supply.next property.path
    (isWithinKeys scale (first, later.getLastD first)) := wholeMade.leaf_test
  have leaves : LeavesOf supply property.path (isWithinKeys scale) ((first :: later).zip later)
    windows := windowsMade.imp fun _ _ windowMade => windowMade.leaf_test
  have nonempty : (first :: later).zip later ≠ [] := by
    cases later with
    | nil => exact absurd rfl several
    | cons next rest => exact List.cons_ne_nil _ _
  have one : 1 ≤ ((first :: later).zip later).length := List.length_pos_iff.mpr nonempty
  rcases leaves.exists_counting nonempty (.exactly 1) one (by decide) with
    ⟨exact, exactMade, exactCombines⟩
  rcases leaves.exists_anyOf nonempty with ⟨any, anyMade, anyCombines⟩
  rcases leaves.exists_counting nonempty (.atMost 1) one (by decide) with
    ⟨most, mostMade, mostCombines⟩
  refine ⟨exact, any, most, exactMade, anyMade, mostMade, ?_⟩
  intro entity
  have fails (world : World) (failure : Failure) (shared : ∀ window,
      (property.path.valueAt entity world).answer >>= isWithinKeys scale window =
        .error failure) :
      ∀ criterion ∈ [exact, any, whole, most],
        criterion.answerOn entity world = .error failure := by
    simp only [List.forall_mem_cons, List.not_mem_nil, false_implies, implies_true, and_true]
    exact ⟨exactCombines.fails shared, anyCombines.fails shared,
      (wholeLeaf.answerOn entity world).trans (shared _), mostCombines.fails shared⟩
  refine ⟨?_, ?_, ?_⟩
  · intro world failure unread
    refine fails world failure fun window => ?_
    rw [unread]
    rfl
  · intro world value read present other
    refine fails world _ fun window => ?_
    rw [read]
    exact isWithinKeys_of_other temporal window present other
  · intro steady value settles ordered world still
    rcases exists_verdicts_of_windows temporal ascending ordered with
      ⟨own, verdict, windowAnswers, wholeAnswer, counted, between⟩
    have exactAnswer := exactCombines.settles settles windowAnswers world still
    have anyAnswer := anyCombines.settles settles windowAnswers world still
    have mostAnswer := mostCombines.settles settles windowAnswers world still
    have wholeAnswers : whole.answerOn entity world = .ok verdict := by
      rw [wholeLeaf.answerOn, (settles world still).1]
      exact wholeAnswer
    rw [counted] at exactAnswer mostAnswer
    rw [any_of_count counted] at anyAnswer
    refine ⟨verdict, ?_, ?_, between⟩
    · simp only [List.forall_mem_cons, List.not_mem_nil, false_implies, implies_true, and_true]
      refine ⟨?_, anyAnswer, wholeAnswers⟩
      rw [exactAnswer]
      cases verdict <;> rfl
    · rw [mostAnswer]
      cases verdict <;> rfl

section

open Sample

def latecomer : Gallery :=
  ⟨#[.person ⟨"Brian", 17, none, ["dev"], 200, none⟩]⟩

def joined : Property :=
  ⟨⟨[.member "joined"]⟩⟩

theorem joined_in_one_window :
    ∃ exact, (Criterion.counting (.exactly 1)
        [(joined.within (.date 100) (.date 200) ⟨3⟩).1,
          (joined.within (.date 200) (.date 200) ⟨6⟩).1,
          (joined.within (.date 200) (.date 300) ⟨9⟩).1] ⟨12⟩).1 = .ok exact ∧
      exact.answerOn ⟨0⟩ latecomer = .ok true := by
  have wholeMade : @MadeBefore Gallery ⟨12⟩ (joined.within (.date 100) (.date 300))
    (joined.within (.date 100) (.date 300) ⟨0⟩).1 := ⟨⟨0⟩, rfl, by decide⟩
  have ascending : List.Pairwise (fun left right : Int32 => left ≤ right) [100, 200, 200, 300] := by
    decide
  have tiles := windows_tile_the_line joined .date (.inl rfl) (100 : Int32)
    [(200 : Int32), (200 : Int32), (300 : Int32)] (List.cons_ne_nil _ _) ascending ⟨12⟩ _ _
    wholeMade
    (.cons ⟨⟨3⟩, rfl, by decide⟩ (.cons ⟨⟨6⟩, rfl, by decide⟩ (.cons ⟨⟨9⟩, rfl, by decide⟩ .nil)))
  rcases tiles with ⟨exact, any, most, exactMade, _, _, verdicts⟩
  have settles : (joined.path.valueAt ⟨0⟩).Settles (· = latecomer) (.ok (.date 200)) :=
    Probe.settles_of_unchanged rfl
  rcases (verdicts ⟨0⟩).2.2 _ _ settles (.inr rfl) latecomer rfl with
    ⟨verdict, answers, _, _, between⟩
  have inside : (100 : Int32) ≤ 200 ∧ (200 : Int32) < 300 := by decide
  have held : verdict = true := (between (200 : Int32) rfl).mpr inside
  refine ⟨exact, exactMade, ?_⟩
  rw [answers exact List.mem_cons_self, held]

def today : Property :=
  ⟨⟨[.member "day"]⟩⟩

def dayWindows : List (Criterion Clock) :=
  [(today.within (.date 0) (.date 1) ⟨0⟩).1, (today.within (.date 1) (.date 2) ⟨3⟩).1]

/-- Each window reads the day for itself, and when the second one does so it is the day after. Both
hold, and the count can tell them from the one wide window. -/
theorem windows_overlap_where_reads_change :
    ∃ exact any most, (Criterion.counting (.exactly 1) dayWindows ⟨9⟩).1 = .ok exact ∧
      (Criterion.anyOf dayWindows ⟨9⟩).1 = .ok any ∧
      (Criterion.counting (.atMost 1) dayWindows ⟨9⟩).1 = .ok most ∧
      exact.answerOn ⟨0⟩ ⟨0⟩ = .ok false ∧ any.answerOn ⟨0⟩ ⟨0⟩ = .ok true ∧
      (today.within (.date 0) (.date 2) ⟨6⟩).1.answerOn ⟨0⟩ (⟨0⟩ : Clock) = .ok true ∧
      most.answerOn ⟨0⟩ ⟨0⟩ = .ok false := by
  have nonempty : dayWindows ≠ [] := List.cons_ne_nil _ _
  have reachable : ∀ window ∈ dayWindows, window.Reachable ⟨9⟩ :=
    List.forall_mem_cons.mpr ⟨.later (.test rfl) (by decide),
      List.forall_mem_singleton.mpr (.later (.test rfl) (by decide))⟩
  have fits : ∀ window ∈ dayWindows, window.CountsFit :=
    List.forall_mem_cons.mpr ⟨.tree, List.forall_mem_singleton.mpr .tree⟩
  have ran : Probe.Answered (·.evaluate ⟨0⟩) dayWindows ⟨0⟩ [true, true] _ _ :=
    .cons rfl (.cons rfl .nil)
  rcases @Criterion.exists_counting Clock ⟨9⟩ dayWindows (.exactly 1) nonempty (by decide)
    (by decide) with ⟨exact, exactMade⟩
  rcases Criterion.exists_ofChain_of_ne_nil "any_of" Term.or id nonempty with ⟨any, anyMade⟩
  rcases @Criterion.exists_counting Clock ⟨9⟩ dayWindows (.atMost 1) nonempty (by decide)
    (by decide) with ⟨most, mostMade⟩
  exact ⟨exact, any, most, exactMade, anyMade, mostMade,
    Criterion.answerOn_counting ⟨_, Nat.le_refl _, exactMade⟩ ran,
    Criterion.answerOn_anyOf ⟨_, Nat.le_refl _, anyMade⟩ reachable fits ran, rfl,
    Criterion.answerOn_counting ⟨_, Nat.le_refl _, mostMade⟩ ran⟩

end

end Property

end Criteria

import Criteria.Criterion.Evaluation
import Criteria.Proofs.Compilation
import Criteria.Proofs.Reachable

/-!
All ways to evaluate a criterion agree.

For a tree and for a cached criterion that is what compilation gives. A counting criterion is run by
a loop over its operands, while its term adds up one number for each of them in a balanced tree of
another variable. The two are related segment by segment: a part of the tree has the value that the
loop reaches over the operands below it.
-/

namespace Criteria

/-! ## Integers that count -/

namespace Number

theorem toInt_ofNat {count : Nat} (few : count < int64Bound) :
    (Int64.ofNat count).toInt = count :=
  Int64.toInt_ofNat_of_lt few

theorem toInt64?_ofNat {count : Nat} (few : count < int64Bound) :
    toInt64? count = some (Int64.ofNat count) := by
  rw [toInt64?, if_pos (by omega)]
  rfl

theorem eq_ofNat_of_toInt64? {count : Nat} {converted : Int64}
    (exact : toInt64? count = some converted) :
    count < int64Bound ∧ converted = Int64.ofNat count := by
  by_cases few : count < int64Bound
  · rw [toInt64?_ofNat few] at exact
    exact ⟨few, (Option.some.inj exact).symm⟩
  · rw [toInt64?, if_neg (by omega)] at exact
    cases exact

end Number

private theorem Value.add_counts {left right : Nat} (few : left + right < Number.int64Bound) :
    (Value.int (Int64.ofNat left)).add (.int (Int64.ofNat right)) =
      .ok (.int (Int64.ofNat (left + right))) := by
  have sum : (Int64.ofNat left).toInt + (Int64.ofNat right).toInt =
      ((left + right : Nat) : Int) := by
    rw [Number.toInt_ofNat (by omega), Number.toInt_ofNat (by omega)]
    exact (Int.natCast_add left right).symm
  simp only [Value.add, Value.addInts?, sum, Number.toInt64?_ofNat few]

private theorem Value.equal_counts {left right : Nat} (leftFew : left < Number.int64Bound)
    (rightFew : right < Number.int64Bound) :
    (Value.int (Int64.ofNat left)).equal (.int (Int64.ofNat right)) = (left == right) := by
  rw [Value.equal, Bool.eq_iff_iff, beq_iff_eq, beq_iff_eq, ← Int64.toInt_inj,
    Number.toInt_ofNat leftFew, Number.toInt_ofNat rightFew]
  exact Int.natCast_inj

private theorem Value.order_counts {left right : Nat} (leftFew : left < Number.int64Bound)
    (rightFew : right < Number.int64Bound) :
    (Value.int (Int64.ofNat left)).order (.int (Int64.ofNat right)) =
      some (Value.orderBy left right) := by
  have below (first second : Nat) (firstFew : first < Number.int64Bound)
      (secondFew : second < Number.int64Bound) :
      Int64.ofNat first < Int64.ofNat second ↔ first < second := by
    rw [Int64.lt_iff_toInt_lt, Number.toInt_ofNat firstFew, Number.toInt_ofNat secondFew]
    exact Int.ofNat_lt
  simp only [Value.order, Value.orderBy, below left right leftFew rightFew,
    below right left rightFew leftFew]

theorem Quantifier.comparison_apply {quantifier : Quantifier} {count : Nat}
    (few : count < Number.int64Bound) (thresholdFew : quantifier.threshold < Number.int64Bound) :
    quantifier.comparison.apply (.int (Int64.ofNat count))
      (.int (Int64.ofNat quantifier.threshold)) = .ok (quantifier.accepts count) := by
  have equal := Value.equal_counts few thresholdFew
  have order := Value.order_counts few thresholdFew
  cases quantifier with
  | exactly required =>
      simp only [threshold] at equal
      simp only [comparison, threshold, accepts, Comparison.apply, equal]
  | atLeast required =>
      simp only [threshold] at order
      simp only [comparison, threshold, accepts, Comparison.apply, Comparison.decideOrder,
        Value.isNone, order, Comparison.accepts, Value.orderBy]
      grind
  | atMost required =>
      simp only [threshold] at order
      simp only [comparison, threshold, accepts, Comparison.apply, Comparison.decideOrder,
        Value.isNone, order, Comparison.accepts, Value.orderBy]
      grind

namespace Criterion

variable {World : Type} [Records World]

/-! ## The loop -/

private theorem tally_append (entity : Record) (first second : List (Criterion World))
    (count : Nat) :
    tally entity (first ++ second) count =
      (do tally entity second (← tally entity first count)) := by
  induction first generalizing count with
  | nil => simp only [List.nil_append, tally, pure_bind]
  | cons operand operands induction =>
      simp only [List.cons_append, tally, bind_assoc]
      congr 1
      funext verdict
      cases verdict <;> simp [induction]

theorem tally_from (entity : Record) (operands : List (Criterion World)) (count : Nat) :
    tally entity operands count = (do return count + (← tally entity operands 0)) := by
  induction operands generalizing count with
  | nil => simp only [tally, pure_bind, Nat.add_zero]
  | cons operand operands induction =>
      simp only [tally, bind_assoc]
      congr 1
      funext verdict
      cases verdict
      · exact induction count
      · simp only [if_true]
        rw [induction (count + 1), induction (0 + 1)]
        simp only [bind_assoc, pure_bind, Nat.add_assoc, Nat.zero_add]

theorem ensures_tally (entity : Record) (operands : List (Criterion World)) (count : Nat) :
    (tally entity operands count).Ensures (· ≤ count + operands.length) := by
  induction operands generalizing count with
  | nil => exact Probe.ensures_pure (Nat.le_refl count)
  | cons operand operands induction =>
      have decided : (operand.evaluate entity).Ensures fun _ => True := fun _ _ _ => trivial
      rw [tally]
      refine Probe.ensures_bind decided ?_
      intro verdict _ world reached equal
      rw [List.length_cons]
      cases verdict
      · have bounded := induction count world reached equal
        omega
      · have bounded := induction (count + 1) world reached equal
        omega

/-! ## The sum -/

/-- The term has the value that the loop over the operands reaches. Whether the sum is exact is not
asked of lists that are too long. -/
def CountedBy (scope : Scope) (sum : Term World) (operands : List (Criterion World)) : Prop :=
  operands.length < Number.int64Bound →
    (sum.value scope).Agrees (do return .int (Int64.ofNat (← tally scope.entity operands 0)))

private theorem countedBy_add (scope : Scope) :
    Balanced.Appends (@CountedBy World _ scope) Term.add := by
  intro left right first second leftCounted rightCounted few
  rw [List.length_append] at few
  have left_eq := leftCounted (by omega)
  have right_eq := rightCounted (by omega)
  have leftBound := (ensures_tally scope.entity first 0).observed Failure.unnamed
  have rightBound := (ensures_tally scope.entity second 0).observed Failure.unnamed
  unfold Probe.Agrees at left_eq right_eq ⊢
  simp only [Term.value, Probe.observed_bind, left_eq, right_eq, Probe.observed_pure, bind_assoc,
    pure_bind, tally_append]
  refine Probe.bind_congr_of_ensures leftBound ?_
  intro leftCount leftSmall
  rw [tally_from scope.entity second leftCount]
  simp only [Probe.observed_bind, Probe.observed_pure, bind_assoc, pure_bind]
  refine Probe.bind_congr_of_ensures rightBound ?_
  intro rightCount rightSmall
  rw [Value.add_counts (by omega)]
  rfl

private theorem countedBy_unitFor {scope : Scope} {operand : Criterion World}
    (closed : operand.predicate.Closed) (apart : ¬ operand.bound.same scope.bound)
    (agrees : (operand.evaluate scope.entity).Agrees (operand.predicate.evaluate scope.entity)) :
    CountedBy scope (unitFor (operand.predicate.bodyOn scope.bound)) [operand] := by
  intro _
  have moved := (closed.agrees_bodyOn apart scope.entity).trans agrees.symm
  have sum : (unitFor (operand.predicate.bodyOn scope.bound)).value scope = (do
      let verdict ← (operand.predicate.bodyOn scope.bound).holds scope
      return .int (if verdict then 1 else 0)) := by
    simp only [unitFor, Term.value, Term.holds, Term.int, bind_assoc]
    congr 1
    funext value
    congr 1
    funext verdict
    cases verdict <;> rfl
  have loop : tally scope.entity [operand] 0 = (do
      let verdict ← operand.evaluate scope.entity
      return if verdict then 1 else 0) := by
    simp only [tally]
    congr 1
    funext verdict
    cases verdict <;> rfl
  rw [sum, loop, bind_assoc]
  refine (moved.bind _).trans ?_
  unfold Probe.Agrees
  congr 2
  funext verdict
  cases verdict <;> rfl

/-! ## All paths -/

/-- The counts that evaluation runs into have fewer than `2 ^ 63` operands. Nothing checks that, but
no memory holds a longer list. -/
inductive CountsFit : Criterion World → Prop where
  | tree {identity : Nat} {name : Option String} {predicate : Predicate World} :
      CountsFit ⟨identity, name, predicate, .tree⟩
  | count {identity : Nat} {name : Option String} {predicate : Predicate World}
      {operands : List (Criterion World)} {quantifier : Quantifier}
      (few : operands.length < Number.int64Bound)
      (operandsFit : ∀ operand ∈ operands, CountsFit operand) :
      CountsFit ⟨identity, name, predicate, .count operands quantifier⟩
  | cached {identity : Nat} {name : Option String} {predicate : Predicate World}
      {source : Criterion World} : CountsFit ⟨identity, name, predicate, .cached source⟩

theorem Sums.countedBy {limit : Nat} {operands : List (Criterion World)}
    {quantifier : Quantifier} {predicate : Predicate World} {sum : Term World} {threshold : Int64}
    (sums : Sums operands quantifier predicate sum threshold)
    (sound : ∀ operand ∈ operands, Sound limit operand)
    (apart : ∀ operand ∈ operands, ¬ operand.bound.same predicate.bound) (entity : Record)
    (agree : ∀ operand ∈ operands,
      (operand.evaluate entity).Agrees (operand.predicate.evaluate entity)) :
    CountedBy ⟨predicate.bound, entity⟩ sum operands := by
  refine Balanced.standsFor_join? (countedBy_add ⟨predicate.bound, entity⟩) ?_ sums.1
  intro operand member
  exact countedBy_unitFor (sound operand member).closed (apart operand member)
    (agree operand member)

theorem evaluate_cached_agrees (identity : Nat) (name : Option String)
    (predicate : Predicate World) (source : Criterion World) (entity : Record) :
    (evaluate entity ⟨identity, name, predicate, .cached source⟩).Agrees
      (predicate.evaluate entity) := by
  rw [evaluate, Predicate.compile_eq_evaluate]
  unfold Probe.Agrees closureUse
  rw [Probe.observed_bind, Probe.observed_touch_closure, pure_bind]

theorem Sound.evaluate_agrees {limit : Nat} {criterion : Criterion World}
    (sound : Sound limit criterion) (fits : CountsFit criterion) (entity : Record) :
    (criterion.evaluate entity).Agrees (criterion.predicate.evaluate entity) := by
  induction sound with
  | tree => exact Probe.Agrees.refl _
  | cached => exact evaluate_cached_agrees _ _ _ _ entity
  | @count _ _ predicate operands quantifier sum threshold _ _ operandsSound apart sums induction =>
      cases fits with
      | count few operandsFit =>
          -- The operands agree with their terms by induction, so the sum has the value of the loop.
          have agree := fun operand member => induction operand member (operandsFit operand member)
          have counted := Sums.countedBy sums operandsSound apart entity agree few
          rcases sums with ⟨_, exact, body⟩
          rcases Number.eq_ofNat_of_toInt64? exact with ⟨thresholdFew, rfl⟩
          have bounded := (ensures_tally entity operands 0).observed Failure.unnamed
          unfold Probe.Agrees at counted ⊢
          rw [evaluate, Predicate.evaluate, body, Term.holds_compare]
          simp only [Probe.observed_bind, counted, Probe.observed_pure, Term.int, Term.value,
            bind_assoc, pure_bind]
          refine Probe.bind_congr_of_ensures bounded ?_
          intro count small
          rw [Quantifier.comparison_apply (by omega) thresholdFew]
          rfl

private theorem cached_agrees {criterion : Criterion World} {now : Supply} {entity : Record}
    (agrees : (criterion.evaluate entity).Agrees (criterion.predicate.evaluate entity)) :
    ((criterion.cached now).1.evaluate entity).Agrees (criterion.predicate.evaluate entity) := by
  unfold cached
  split
  · exact agrees
  · exact evaluate_cached_agrees now.next none criterion.predicate criterion entity

/-- However a reachable criterion is run, walked or compiled, afresh or through a cache, it does
what walking its term does. The term of a count adds up its operands, and the sum has the value that
the loop reaches, which an integer of 64 bits holds exactly. -/
theorem paths_agree {supply : Supply} {criterion : Criterion World}
    (reachable : criterion.Reachable supply) (fits : criterion.CountsFit) (entity : Record) :
    (∀ now : Supply, ∀ path ∈ [criterion.evaluate entity, (criterion.compile now).1.run entity,
        (criterion.compiled now).1.1.run entity, (criterion.cached now).1.evaluate entity],
      path.Agrees (criterion.predicate.evaluate entity)) ∧
    ∀ operands quantifier, criterion.method = .count operands quantifier →
      ∃ sum threshold, Sums operands quantifier criterion.predicate sum threshold ∧
        threshold.toInt = quantifier.threshold ∧
        (sum.value ⟨criterion.bound, entity⟩).Agrees
          (do return .int (Int64.ofNat (← tally entity operands 0))) ∧
        (tally entity operands 0).Ensures fun count => (Int64.ofNat count).toInt = count := by
  have sound := reachable.sound
  have agrees := sound.evaluate_agrees fits entity
  constructor
  · intro now path member
    simp only [List.mem_cons, List.not_mem_nil, or_false] at member
    rcases member with rfl | rfl | rfl | rfl
    · exact agrees
    · rw [compile_run]
      exact Probe.Agrees.refl _
    · rw [compiled_run]
      exact Probe.Agrees.refl _
    · exact cached_agrees agrees
  · intro operands quantifier method
    cases sound with
    | tree => cases method
    | cached => cases method
    | @count _ _ _ _ _ sum threshold _ _ operandsSound apart sums =>
        cases method
        cases fits with
        | count few operandsFit =>
            have agree := fun operand member =>
              (operandsSound operand member).evaluate_agrees (operandsFit operand member) entity
            have counted := Sums.countedBy sums operandsSound apart entity agree few
            refine ⟨sum, threshold, sums, ?_, counted, ?_⟩
            · rcases Number.eq_ofNat_of_toInt64? sums.2.1 with ⟨thresholdFew, equal⟩
              rw [equal, Number.toInt_ofNat thresholdFew]
            · intro world count reached
              have small := ensures_tally entity operands 0 world count reached
              exact Number.toInt_ofNat (by omega)

section

open Sample

theorem oneFlag_countsFit : oneFlag.CountsFit := by
  refine .count (by decide) ?_
  intro operand member
  rcases List.mem_cons.mp member with rfl | member
  · exact .tree
  · rw [List.mem_singleton.mp member]
    exact .tree

theorem oneFlag_paths_agree :
    oneFlag.Reachable ⟨6⟩ ∧ oneFlag.CountsFit ∧
      (oneFlag.evaluate ⟨0⟩).Agrees (oneFlag.predicate.evaluate ⟨0⟩) := by
  have all := (paths_agree oneFlag_reachable oneFlag_countsFit ⟨0⟩).1 ⟨6⟩
  exact ⟨oneFlag_reachable, oneFlag_countsFit, all _ List.mem_cons_self⟩

end

end Criterion

end Criteria

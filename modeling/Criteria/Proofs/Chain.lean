import Criteria.Proofs.Skeleton
import Criteria.Proofs.TruthTable

/-!
Conjunctions and disjunctions of any number of criteria.

The operands are joined pairwise, again and again, and the nesting differs for every number of
them. What a part of the tree does is a scan of the operands below it, and a join of two parts scans
the operands of the one and then those of the other. So the whole is the scan of the list, from left
to right, whatever its length.
-/

namespace Criteria

variable {World : Type}

/-! ## Joins of scans -/

namespace Probe

@[simp] theorem observed_chained (view : Failure → Failure) (neutral : Bool)
    (first second : Probe World Bool) :
    (chained neutral first second).observed view =
      chained neutral (first.observed view) (second.observed view) := by
  simp only [chained, observed_bind, observed_ite, observed_pure]

end Probe

namespace Criterion

/-! ## Construction -/

def MadeSince (supply : Supply) (construction : Fresh (Except Refusal (Criterion World)))
    (criterion : Criterion World) : Prop :=
  ∃ now : Supply, supply.next ≤ now.next ∧ (construction now).1 = .ok criterion

/-- The operands stay reachable, so it does not matter when they are composed. -/
theorem MadeSince.run {supply : Supply} {operands : List (Criterion World)}
    {construction : Fresh (Except Refusal (Criterion World))} {result : Criterion World}
    (made : MadeSince supply construction result)
    (reachable : ∀ operand ∈ operands, operand.Reachable supply) :
    ∃ now after, construction now = (.ok result, after) ∧
      ∀ operand ∈ operands, Sound now.next operand := by
  rcases made with ⟨now, ahead, made⟩
  refine ⟨now, (construction now).2, Prod.ext made rfl, ?_⟩
  intro operand member
  exact (reachable operand member).sound.later ahead

section

variable {supply after : Supply} {operands : List (Criterion World)}

private theorem exists_chain_of_ne_nil (combinator : String)
    (join : Term World → Term World → Term World) (nonempty : operands ≠ []) :
    ∃ predicate, (chain combinator join operands supply).1 = .ok predicate := by
  cases operands with
  | nil => exact absurd rfl nonempty
  | cons first rest =>
      have joins : ∃ whole, Balanced.join? join ((first :: rest).map
          (·.predicate.bodyOn ⟨supply.next, first.bound.name⟩)) = some whole :=
        Balanced.exists_join?_of_ne_nil (List.cons_ne_nil _ _)
      rcases joins with ⟨whole, joined⟩
      simp only [chain, List.isEmpty_cons, Bool.false_eq_true, if_false, Fresh.bind_run,
        rebindAll_run, joined]
      exact ⟨_, rfl⟩

theorem exists_ofChain_of_ne_nil (combinator : String)
    (join : Term World → Term World → Term World) (make : Term World → Term World)
    (nonempty : operands ≠ []) :
    ∃ result, ((do ofChain make (← chain combinator join operands)) supply).1 = .ok result := by
  rcases @exists_chain_of_ne_nil World supply operands combinator join nonempty with
    ⟨predicate, chained⟩
  rw [Fresh.bind_run, chained]
  exact ⟨_, rfl⟩

theorem ofChain_refuses_iff {combinator : String} {join : Term World → Term World → Term World}
    {make : Term World → Term World} {refusal : Refusal} :
    ((do ofChain make (← chain combinator join operands)) supply).1 = .error refusal ↔
      operands = [] ∧ refusal = noOperands combinator := by
  constructor
  · intro refused
    by_cases empty : operands = []
    · subst empty
      cases refused
      exact ⟨rfl, rfl⟩
    · rcases @exists_ofChain_of_ne_nil World supply operands combinator join make empty with
        ⟨result, made⟩
      rw [made] at refused
      cases refused
  · intro empty
    rcases empty with ⟨rfl, rfl⟩
    rfl

end

/-! ## Evaluation -/

section

variable [Records World] {supply after : Supply} {operands : List (Criterion World)}
  {result : Criterion World}

theorem evaluate_of_tree {criterion : Criterion World} (method : criterion.method = .tree)
    (entity : Record) : criterion.evaluate entity = criterion.predicate.evaluate entity := by
  rcases criterion with ⟨identity, name, predicate, how⟩
  change how = .tree at method
  subst method
  rw [evaluate]

theorem observed_chain {combinator : String} {neutral : Bool} {predicate : Predicate World}
    (made : chain combinator (Term.link neutral) operands supply = (.ok predicate, after))
    (sound : ∀ operand ∈ operands, Sound supply.next operand)
    (fits : ∀ operand ∈ operands, operand.CountsFit) (entity : Record) :
    (predicate.evaluate entity).observed Failure.unnamed =
      Probe.scan neutral (·.observedOn entity) operands := by
  rcases chain_of_ok made with ⟨fresh, _, joined⟩
  have appends : Balanced.Appends (fun (term : Term World) (segment : List (Criterion World)) =>
      (term.holds ⟨predicate.bound, entity⟩).observed Failure.unnamed =
        Probe.scan neutral (·.observedOn entity) segment) (Term.link neutral) := by
    intro left right first second leftScans rightScans
    rw [Term.holds_link, Probe.observed_chained, leftScans, rightScans, Probe.scan_append]
  refine Balanced.standsFor_join? appends ?_ joined
  intro operand member
  have alone := (sound operand member).observed_bodyOn (fits operand member) predicate.bound.name
    entity
  rw [← fresh] at alone
  rw [Probe.scan_singleton, ← alone]

theorem observedOn_ofChain {combinator : String} {join : Term World → Term World → Term World}
    {make : Term World → Term World}
    (made : (do ofChain make (← chain combinator join operands)) supply = (.ok result, after)) :
    ∃ predicate between, chain combinator join operands supply = (.ok predicate, between) ∧
      ∀ entity, result.observedOn entity =
        ((make predicate.body).holds ⟨predicate.bound, entity⟩).observed Failure.unnamed := by
  rcases ofChain_of_ok made with ⟨predicate, between, chained, equal, method, _⟩
  refine ⟨predicate, between, chained, ?_⟩
  intro entity
  rw [observedOn, evaluate_of_tree method, equal, Predicate.evaluate]

theorem observedOn_all (made : all operands supply = (.ok result, after))
    (sound : ∀ operand ∈ operands, Sound supply.next operand)
    (fits : ∀ operand ∈ operands, operand.CountsFit) (entity : Record) :
    result.observedOn entity = Probe.scan true (·.observedOn entity) operands := by
  rcases observedOn_ofChain made with ⟨predicate, between, chained, observed⟩
  rw [observed]
  exact observed_chain chained sound fits entity

theorem observedOn_anyOf (made : anyOf operands supply = (.ok result, after))
    (sound : ∀ operand ∈ operands, Sound supply.next operand)
    (fits : ∀ operand ∈ operands, operand.CountsFit) (entity : Record) :
    result.observedOn entity = Probe.scan false (·.observedOn entity) operands := by
  rcases observedOn_ofChain made with ⟨predicate, between, chained, observed⟩
  rw [observed]
  exact observed_chain chained sound fits entity

theorem observedOn_noneOf (made : noneOf operands supply = (.ok result, after))
    (sound : ∀ operand ∈ operands, Sound supply.next operand)
    (fits : ∀ operand ∈ operands, operand.CountsFit) (entity : Record) :
    result.observedOn entity = (! ·) <$> Probe.scan false (·.observedOn entity) operands := by
  rcases observedOn_ofChain made with ⟨predicate, between, chained, observed⟩
  rw [observed, Term.holds_not, ← map_eq_pure_bind, Probe.observed_map]
  exact congrArg _ (observed_chain chained sound fits entity)

end

/-! ## The whole list -/

section

variable [Records World] {supply : Supply} {operands : List (Criterion World)}

/-- Conjunctions and disjunctions of a list are scans of the list from left to right, and so is the
negated disjunction. Only an empty list is refused. A conjunction stops at the first operand that
gives false or fails, a disjunction at the first that gives true or fails, and none behind it is
read or run. -/
theorem chains_scan_left_to_right
    (reachable : ∀ operand ∈ operands, operand.Reachable supply)
    (fits : ∀ operand ∈ operands, operand.CountsFit) :
    (∀ now refusal,
      ((all operands now).1 = .error refusal ↔ operands = [] ∧ refusal = noOperands "all") ∧
      ((anyOf operands now).1 = .error refusal ↔
        operands = [] ∧ refusal = noOperands "any_of") ∧
      ((noneOf operands now).1 = .error refusal ↔
        operands = [] ∧ refusal = noOperands "none_of")) ∧
    ∀ (entity : Record) (world : World),
      (∀ result, MadeSince supply (all operands) result →
        Probe.Decided true (·.observedOn entity) operands world
          (result.observedOn entity world)) ∧
      (∀ result, MadeSince supply (anyOf operands) result →
        Probe.Decided false (·.observedOn entity) operands world
          (result.observedOn entity world)) ∧
      ∀ result any, MadeSince supply (noneOf operands) result →
        MadeSince supply (anyOf operands) any →
        result.observedOn entity world =
          { any.observedOn entity world with
            answer := (any.observedOn entity world).answer.map (! ·) } := by
  constructor
  · intro now refusal
    exact ⟨ofChain_refuses_iff, ofChain_refuses_iff, ofChain_refuses_iff⟩
  · intro entity world
    refine ⟨?_, ?_, ?_⟩
    · intro result made
      rcases made.run reachable with ⟨now, after, made, sound⟩
      rw [observedOn_all made sound fits]
      exact Probe.decided_scan true _ operands world
    · intro result made
      rcases made.run reachable with ⟨now, after, made, sound⟩
      rw [observedOn_anyOf made sound fits]
      exact Probe.decided_scan false _ operands world
    · intro result any made anyMade
      rcases made.run reachable with ⟨now, after, made, sound⟩
      rcases anyMade.run reachable with ⟨anyNow, anyAfter, anyMade, anySound⟩
      rw [observedOn_noneOf made sound fits, observedOn_anyOf anyMade anySound fits,
        Probe.map_run]

end

section

open Sample

def flagPair : List (Criterion Gallery) :=
  [flag 0 "a", flag 2 "b"]

theorem flagPair_reachable : ∀ operand ∈ flagPair, operand.Reachable ⟨4⟩ :=
  List.forall_mem_cons.mpr ⟨flag_reachable "a" (by decide),
    List.forall_mem_singleton.mpr (flag_reachable "b" (by decide))⟩

theorem flagPair_countsFit : ∀ operand ∈ flagPair, operand.CountsFit :=
  List.forall_mem_cons.mpr ⟨flag_countsFit 0 "a",
    List.forall_mem_singleton.mpr (flag_countsFit 2 "b")⟩

theorem exists_all_flagPair : ∃ every, MadeSince ⟨4⟩ (all flagPair) every := by
  rcases exists_ofChain_of_ne_nil "all" Term.and id (List.cons_ne_nil _ _) with ⟨every, made⟩
  exact ⟨every, ⟨4⟩, Nat.le_refl 4, made⟩

theorem flagPair_scanned :
    ∃ every, MadeSince ⟨4⟩ (all flagPair) every ∧
      Probe.Decided true (·.observedOn ⟨0⟩) flagPair twoFlags (every.observedOn ⟨0⟩ twoFlags) := by
  have scanned := chains_scan_left_to_right flagPair_reachable flagPair_countsFit
  rcases exists_all_flagPair with ⟨every, made⟩
  exact ⟨every, made, (scanned.2 ⟨0⟩ twoFlags).1 every made⟩

end

end Criterion

end Criteria

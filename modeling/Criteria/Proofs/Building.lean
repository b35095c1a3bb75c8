import Criteria.Builder
import Criteria.Proofs.TruthTable

/-!
What a builder makes of its steps.

Of a run only the steps that take effect matter: the criteria that are added, each in its way, and
the names that are given. A block under a condition contributes the steps inside it or nothing. The
criterion that is built answers what a walk over the additions answers from left to right, which
leaves an addition untouched where the verdict so far decides alone.
-/

namespace Criteria

variable {World : Type}

namespace Builder

/-! ## Steps and what they contribute -/

inductive Joining where
  | and
  | or
  | andNot

inductive Step (World : Type) where
  | add (joining : Joining) (operand : Criterion World)
  | named (name : String)
  | when (condition : Bool) (steps : List (Step World))

structure Addition (World : Type) where
  joining : Joining
  operand : Criterion World

mutual
def Step.additions : Step World → List (Addition World)
  | .add joining operand => [⟨joining, operand⟩]
  | .named _ => []
  | .when condition steps => if condition then additionsOf steps else []

def additionsOf : List (Step World) → List (Addition World)
  | [] => []
  | step :: steps => step.additions ++ additionsOf steps
end

mutual
def Step.names : Step World → List String
  | .add _ _ => []
  | .named name => [name]
  | .when condition steps => if condition then namesOf steps else []

def namesOf : List (Step World) → List String
  | [] => []
  | step :: steps => step.names ++ namesOf steps
end

def starting : Option (Criterion World) → Builder World
  | none => .empty
  | some criterion => .ofCriterion criterion

/-- All criteria that a builder was supplied with. The one it started from counts as the first. -/
def supplied (start : Option (Criterion World)) (steps : List (Step World)) :
    List (Addition World) :=
  start.toList.map (Addition.mk .and) ++ additionsOf steps

/-- A single criterion is taken over with its name, unless it was excluded. -/
def takenName : List (Addition World) → Option String
  | [addition] =>
      match addition.joining with
      | .andNot => none
      | _ => addition.operand.name
  | _ => none

/-! ## Runs -/

def Joining.perform : Joining → Builder World → Criterion World → Fresh (Builder World)
  | .and => Builder.and
  | .or => Builder.or
  | .andNot => Builder.andNot

/-- The builder runs through the steps. Criteria may be made in between, so an operand has to exist
only when it is added, and a block may be anything that runs through the steps inside it. -/
inductive Runs : Supply → Builder World → List (Step World) → Supply → Builder World → Prop where
  | done {supply : Supply} {builder : Builder World} : Runs supply builder [] supply builder
  | later {supply now after : Supply} {builder result : Builder World} {steps : List (Step World)}
      (ahead : supply.next ≤ now.next) (rest : Runs now builder steps after result) :
      Runs supply builder steps after result
  | add {supply now after : Supply} {builder next result : Builder World}
      {steps : List (Step World)} {joining : Joining} {operand : Criterion World}
      (reachable : operand.Reachable supply)
      (performed : joining.perform builder operand supply = (next, now))
      (rest : Runs now next steps after result) :
      Runs supply builder (.add joining operand :: steps) after result
  | named {supply after : Supply} {builder result : Builder World} {steps : List (Step World)}
      {name : String} (rest : Runs supply (builder.named name) steps after result) :
      Runs supply builder (.named name :: steps) after result
  | when {supply now after : Supply} {builder next result : Builder World}
      {inside steps : List (Step World)} {condition : Bool}
      {block : Builder World → Fresh (Builder World)}
      (runsInside : condition = true →
        Runs supply builder inside (block builder supply).2 (block builder supply).1)
      (performed : builder.when condition block supply = (next, now))
      (rest : Runs now next steps after result) :
      Runs supply builder (.when condition inside :: steps) after result

mutual
def Step.perform : Step World → Builder World → Fresh (Builder World)
  | .add joining operand, builder => joining.perform builder operand
  | .named name, builder => pure (builder.named name)
  | .when condition steps, builder => builder.when condition (performAll steps)

def performAll : List (Step World) → Builder World → Fresh (Builder World)
  | [], builder => pure builder
  | step :: steps, builder => do performAll steps (← step.perform builder)
end

/-! ## What a walk over the additions answers -/

namespace Joining

def connective : Joining → Connective
  | .and => .and
  | .or => .or
  | .andNot => .andNot

def keeps : Joining → Bool → Bool
  | .or, verdict => verdict
  | _, verdict => !verdict

def counts : Joining → Bool → Bool
  | .andNot, verdict => !verdict
  | _, verdict => verdict

private theorem compute_connective (joining : Joining) (left right : Probe World Bool) :
    joining.connective.compute left right = (do
      let verdict ← left
      if joining.keeps verdict then return verdict else joining.counts <$> right) := by
  have unchanged : (fun verdict : Bool => verdict) <$> right = right := id_map right
  cases joining with
  | and =>
      change (left >>= _) = (left >>= _)
      congr 1
      funext verdict
      cases verdict with
      | false => rfl
      | true => exact unchanged.symm
  | or =>
      change (left >>= _) = (left >>= _)
      congr 1
      funext verdict
      cases verdict with
      | false => exact unchanged.symm
      | true => rfl
  | andNot =>
      change (left >>= _) = (left >>= _)
      congr 1
      funext verdict
      cases verdict with
      | false => rfl
      | true => exact (map_eq_pure_bind _ right).symm

end Joining

section

variable [Records World]

namespace Addition

def asked (addition : Addition World) (entity : Record) (world : World) : Outcome World Bool :=
  let outcome := addition.operand.observedOn entity world
  { outcome with answer := outcome.answer.map addition.joining.counts }

/-- A failure is kept, and so is a verdict that the operand cannot change. Otherwise the operand is
asked, in the world that the ones before it left behind. -/
def onward (entity : Record) (soFar : Outcome World Bool) (addition : Addition World) :
    Outcome World Bool :=
  match soFar.answer with
  | .error _ => soFar
  | .ok verdict =>
      if addition.joining.keeps verdict then soFar
      else
        let next := addition.asked entity soFar.world
        ⟨next.answer, soFar.touches ++ next.touches, next.world⟩

private theorem compute_run (addition : Addition World) (entity : Record) (left : Probe World Bool)
    (world : World) :
    addition.joining.connective.compute left (addition.operand.observedOn entity) world =
      onward entity (left world) addition := by
  rw [Joining.compute_connective]
  rcases ran : left world with ⟨failure | verdict, touches, after⟩
  · exact Probe.bind_of_error ran _
  · by_cases kept : addition.joining.keeps verdict
    · have stays : onward entity ⟨.ok verdict, touches, after⟩ addition =
          ⟨.ok verdict, touches, after⟩ := if_pos kept
      rw [Probe.bind_of_ok ran, if_pos kept, stays]
      change Outcome.mk _ (touches ++ []) _ = _
      rw [List.append_nil]
      rfl
    · have asks : onward entity ⟨.ok verdict, touches, after⟩ addition =
          ⟨(addition.asked entity after).answer, touches ++ (addition.asked entity after).touches,
            (addition.asked entity after).world⟩ := if_neg kept
      rw [Probe.bind_of_ok ran, if_neg kept, Probe.map_run, asks]
      rfl

end Addition

def walk (entity : Record) (world : World) (first : Addition World)
    (rest : List (Addition World)) : Outcome World Bool :=
  rest.foldl (Addition.onward entity) (first.asked entity world)

/-- What the additions come to: nothing, or a criterion that answers for all of them. -/
inductive StandsFor : List (Addition World) → Option (Criterion World) → Prop where
  | nothing : StandsFor [] none
  | criterion {first : Addition World} {rest : List (Addition World)} {current : Criterion World}
      (fits : current.CountsFit) (name : current.name = takenName (first :: rest))
      (answers : ∀ entity world, current.observedOn entity world = walk entity world first rest) :
      StandsFor (first :: rest) (some current)

/-! ## One step -/

open Criterion

theorem standsFor_first {supply : Supply} {addition : Addition World} (name : Option String)
    (sound : Sound supply.next addition.operand) (fits : addition.operand.CountsFit) :
    StandsFor [addition]
      (addition.joining.perform ⟨none, name⟩ addition.operand supply).1.current := by
  rcases addition with ⟨joining, operand⟩
  have unchanged (entity : Record) (world : World) : operand.observedOn entity world =
      { operand.observedOn entity world with
        answer := (operand.observedOn entity world).answer.map fun verdict => verdict } := by
    rcases operand.observedOn entity world with ⟨_ | _, _, _⟩ <;> rfl
  cases joining with
  | and | or => exact .criterion fits rfl unchanged
  | andNot =>
      refine .criterion .tree rfl ?_
      intro entity world
      exact (congrFun (observedOn_negate sound fits entity) world).trans (Probe.map_run _ _ world)

private theorem standsFor_next {supply : Supply} {additions : List (Addition World)}
    {current : Criterion World} {addition : Addition World} (name : Option String)
    (stands : StandsFor additions (some current)) (currentSound : Sound supply.next current)
    (sound : Sound supply.next addition.operand) (fits : addition.operand.CountsFit) :
    StandsFor (additions ++ [addition])
      (addition.joining.perform ⟨some current, name⟩ addition.operand supply).1.current := by
  have combined :
      (addition.joining.perform ⟨some current, name⟩ addition.operand supply).1.current =
        some (combine addition.joining.connective current addition.operand supply).1 := by
    cases addition.joining <;> rfl
  rw [combined]
  cases stands with
  | @criterion first rest _ currentFits _ answers =>
      refine .criterion .tree ?_ ?_
      · cases rest <;> rfl
      · intro entity world
        have extended : walk entity world first (rest ++ [addition]) =
            Addition.onward entity (walk entity world first rest) addition := List.foldl_append
        rw [observedOn_combine currentSound sound currentFits fits, Addition.compute_run, answers]
        exact extended.symm

structure Collected (supply : Supply) (additions : List (Addition World)) (names : List String)
    (builder : Builder World) : Prop where
  reachable : builder.Reachable supply
  stands : StandsFor additions builder.current
  name : builder.name = names.getLast?

namespace Collected

variable {supply now after : Supply} {additions : List (Addition World)} {names : List String}
  {builder next : Builder World}

private theorem later (collected : Collected supply additions names builder)
    (ahead : supply.next ≤ now.next) : Collected now additions names builder :=
  ⟨.later collected.reachable ahead, collected.stands, collected.name⟩

private theorem named (collected : Collected supply additions names builder) (name : String) :
    Collected supply additions (names ++ [name]) (builder.named name) :=
  ⟨.named collected.reachable, collected.stands, List.getLast?_concat.symm⟩

private theorem add (collected : Collected supply additions names builder)
    (addition : Addition World)
    (reachable : addition.operand.Reachable supply) (fits : addition.operand.CountsFit)
    (performed : addition.joining.perform builder addition.operand supply = (next, now)) :
    Collected now (additions ++ [addition]) names next := by
  have sound := reachable.sound
  have reached := collected.reachable
  have result : (addition.joining.perform builder addition.operand supply).1 = next := by
    rw [performed]
  refine ⟨?_, ?_, ?_⟩
  · rcases addition with ⟨joining, operand⟩
    cases joining with
    | and => exact .and reached reachable performed
    | or => exact .or reached reachable performed
    | andNot => exact .andNot reached reachable performed
  · rcases builder with ⟨current, name⟩
    rw [← result]
    have stands := collected.stands
    cases current with
    | none =>
        cases stands
        exact standsFor_first name sound fits
    | some current =>
        exact standsFor_next name stands (reached.current current rfl).sound sound fits
  · rw [← collected.name, ← result]
    rcases builder with ⟨_ | current, name⟩ <;> cases addition.joining <;> rfl

end Collected

/-! ## Whole runs -/

private theorem Collected.run {supply after : Supply} {builder result : Builder World}
    {steps : List (Step World)} (ran : Runs supply builder steps after result)
    {additions : List (Addition World)} {names : List String}
    (collected : Collected supply additions names builder)
    (fits : ∀ addition ∈ additionsOf steps, addition.operand.CountsFit) :
    Collected after (additions ++ additionsOf steps) (names ++ namesOf steps) result := by
  induction ran generalizing additions names with
  | done =>
      rw [additionsOf, namesOf, List.append_nil, List.append_nil]
      exact collected
  | later ahead _ induction => exact induction (collected.later ahead) fits
  | @add _ _ _ _ _ _ steps joining operand reachable performed _ induction =>
      have parts : additionsOf (.add joining operand :: steps) =
          [⟨joining, operand⟩] ++ additionsOf steps := by rw [additionsOf, Step.additions]
      rw [parts] at fits ⊢
      rw [← List.append_assoc]
      have added := collected.add ⟨joining, operand⟩ reachable
        (fits _ List.mem_cons_self) performed
      exact induction added fun addition member => fits addition (List.mem_cons_of_mem _ member)
  | @named _ _ _ _ steps name _ induction =>
      have parts : namesOf (.named name :: steps : List (Step World)) =
          [name] ++ namesOf steps := by
        rw [namesOf, Step.names]
      rw [parts, ← List.append_assoc]
      exact induction (collected.named name) fits
  | @when _ _ _ _ _ _ inside steps condition block _ performed _ inner outer =>
      have additionParts : additionsOf (.when condition inside :: steps) =
          (if condition then additionsOf inside else []) ++ additionsOf steps := by
        rw [additionsOf, Step.additions]
      have nameParts : namesOf (.when condition inside :: steps) =
          (if condition then namesOf inside else []) ++ namesOf steps := by
        rw [namesOf, Step.names]
      rw [additionParts] at fits ⊢
      rw [nameParts, ← List.append_assoc, ← List.append_assoc]
      have outside := fun addition member => fits addition (List.mem_append_right _ member)
      refine outer ?_ outside
      cases condition with
      | false =>
          cases performed
          simpa using collected
      | true =>
          have held := inner rfl collected fun addition member =>
            fits addition (List.mem_append_left _ member)
          have result : block _ _ = _ := performed
          rw [result] at held
          exact held

end

/-! Operands that were all made beforehand can be added without a pause. -/

theorem Joining.ahead_perform (joining : Joining) (builder : Builder World)
    (operand : Criterion World) (supply : Supply) :
    supply.next ≤ (joining.perform builder operand supply).2.next := by
  rcases builder with ⟨_ | current, name⟩
  · cases joining with
    | and | or => exact Nat.le_refl supply.next
    | andNot => exact Nat.le_add_right supply.next 2
  · cases joining <;> exact Nat.le_add_right supply.next 2

private theorem Runs.ahead {supply after : Supply} {builder result : Builder World}
    {steps : List (Step World)} (ran : Runs supply builder steps after result) :
    supply.next ≤ after.next := by
  induction ran with
  | done => exact Nat.le_refl _
  | later ahead _ induction => exact Nat.le_trans ahead induction
  | @add supply _ _ builder _ _ _ joining operand _ performed _ induction =>
      have ahead := joining.ahead_perform builder operand supply
      rw [performed] at ahead
      exact Nat.le_trans ahead induction
  | named _ induction => exact induction
  | @when supply _ _ _ _ _ _ _ condition _ _ performed _ inner outer =>
      refine Nat.le_trans ?_ outer
      cases condition with
      | false =>
          cases performed
          exact Nat.le_refl _
      | true =>
          have ahead := inner rfl
          have result : _ = _ := performed
          rw [Builder.when, if_pos rfl] at result
          rw [result] at ahead
          exact ahead

private theorem runs_performAll (steps : List (Step World)) {supply : Supply}
    (builder : Builder World)
    (reachable : ∀ addition ∈ additionsOf steps, addition.operand.Reachable supply) :
    Runs supply builder steps (performAll steps builder supply).2
      (performAll steps builder supply).1 := by
  match steps with
  | [] => exact .done
  | .add joining operand :: steps =>
      rw [additionsOf, Step.additions] at reachable
      rw [performAll, Fresh.bind_run, Step.perform]
      have ahead := joining.ahead_perform builder operand supply
      refine .add (reachable _ List.mem_cons_self) rfl (runs_performAll steps _ ?_)
      intro addition member
      exact .later (reachable addition (List.mem_cons_of_mem _ member)) ahead
  | .named name :: steps =>
      rw [additionsOf, Step.additions] at reachable
      exact .named (runs_performAll steps _ reachable)
  | .when condition inside :: steps =>
      rw [additionsOf, Step.additions] at reachable
      rw [performAll, Fresh.bind_run, Step.perform]
      cases condition with
      | false =>
          have skipped : (false : Bool) = true → Runs supply builder inside
              (performAll inside builder supply).2 (performAll inside builder supply).1 := nofun
          exact .when skipped rfl (runs_performAll steps _ reachable)
      | true =>
          have inner := runs_performAll inside builder fun addition member =>
            reachable addition (List.mem_append_left _ member)
          refine .when (fun _ => inner) rfl (runs_performAll steps _ ?_)
          intro addition member
          exact .later (reachable addition (List.mem_append_right _ member)) inner.ahead

/-! ## What is built -/

section

variable [Records World]

open Criterion

private theorem collected_starting {supply : Supply} {start : Option (Criterion World)}
    (reachable : ∀ criterion ∈ start, criterion.Reachable supply)
    (fits : ∀ criterion ∈ start, criterion.CountsFit) :
    Collected supply (start.toList.map (Addition.mk .and)) [] (starting start) := by
  cases start with
  | none => exact ⟨.empty, .nothing, rfl⟩
  | some criterion =>
      have criterionReachable := reachable criterion rfl
      exact ⟨.ofCriterion criterionReachable,
        standsFor_first none criterionReachable.sound (fits criterion rfl), rfl⟩

theorem observedOn_named (criterion : Criterion World) (name : String) (supply : Supply)
    (entity : Record) :
    (criterion.named name supply).1.observedOn entity = criterion.observedOn entity := by
  rcases criterion with ⟨identity, own, predicate, method⟩
  change Probe.observed _ (evaluate entity ⟨_, some name, predicate, method⟩) =
    Probe.observed _ (evaluate entity ⟨identity, own, predicate, method⟩)
  cases method with
  | tree => rw [evaluate, evaluate]
  | count operands quantifier => rw [evaluate, evaluate]
  | cached source =>
      exact (evaluate_cached_agrees _ _ predicate source entity).trans
        (evaluate_cached_agrees _ _ predicate source entity).symm

theorem StandsFor.built {additions : List (Addition World)} {builder : Builder World}
    (stands : StandsFor additions builder.current) (now : Supply) :
    (∀ refusal, (builder.build now).1 = .error refusal ↔
      additions = [] ∧ refusal = .invalidArgument "builder has no specifications") ∧
    ∀ first rest, additions = first :: rest →
      ∃ built, (builder.build now).1 = .ok built ∧
        built.name = builder.name.or (takenName additions) ∧
        ∀ entity world, built.observedOn entity world = walk entity world first rest := by
  rcases builder with ⟨current, name⟩
  cases stands with
  | nothing =>
      refine ⟨?_, nofun⟩
      intro refusal
      constructor
      · intro refused
        cases refused
        exact ⟨rfl, rfl⟩
      · intro empty
        rw [empty.2]
        rfl
  | @criterion first rest current _ taken answers =>
      constructor
      · intro refusal
        refine ⟨fun refused => ?_, nofun⟩
        cases name <;> cases refused
      · intro _ _ split
        cases split
        cases name with
        | none => exact ⟨current, rfl, taken, answers⟩
        | some name =>
            refine ⟨(current.named name now).1, rfl, rfl, ?_⟩
            intro entity world
            rw [observedOn_named, answers]

/-- A builder folds its additions from the left.

Any steps can be run, however their blocks are nested, and operands may be made at any time before
they are added. Building is refused exactly if nothing was supplied. Otherwise the criterion answers
what a walk over the additions answers, on every entity and in every world, and it has the name that
was given last, or else that of a single criterion that was taken over. -/
theorem built_by_left_fold :
    (∀ (supply : Supply) (start : Option (Criterion World)) (steps : List (Step World)),
      (∀ addition ∈ supplied start steps, addition.operand.Reachable supply) →
      Runs supply (starting start) steps (performAll steps (starting start) supply).2
        (performAll steps (starting start) supply).1) ∧
    ∀ (supply after : Supply) (start : Option (Criterion World)) (steps : List (Step World))
      (builder : Builder World),
      (∀ criterion ∈ start, criterion.Reachable supply) →
      Runs supply (starting start) steps after builder →
      (∀ addition ∈ supplied start steps, addition.operand.CountsFit) →
      ∀ now,
        (∀ refusal, (builder.build now).1 = .error refusal ↔ supplied start steps = [] ∧
          refusal = .invalidArgument "builder has no specifications") ∧
        ∀ first rest, supplied start steps = first :: rest →
          ∃ built, (builder.build now).1 = .ok built ∧
            built.name = (namesOf steps).getLast?.or (takenName (first :: rest)) ∧
            ∀ entity world, built.observedOn entity world = walk entity world first rest := by
  constructor
  · intro supply start steps reachable
    exact runs_performAll steps (starting start) fun addition member =>
      reachable addition (List.mem_append_right _ member)
  · intro supply after start steps builder startReachable ran fits now
    have startFits : ∀ criterion ∈ start, criterion.CountsFit := by
      intro criterion found
      refine fits ⟨.and, criterion⟩ (List.mem_append_left _ (List.mem_map_of_mem ?_))
      exact Option.mem_toList.mpr found
    have begun := collected_starting startReachable startFits
    have collected := begun.run ran fun addition member =>
      fits addition (List.mem_append_right _ member)
    rcases collected.stands.built now with ⟨refuses, builds⟩
    refine ⟨refuses, ?_⟩
    intro first rest split
    rcases builds first rest split with ⟨built, made, name, answers⟩
    refine ⟨built, made, ?_, answers⟩
    rw [name, collected.name, List.nil_append]
    exact congrArg _ (congrArg takenName split)

end

section

open Sample Criterion

def nestedSteps : List (Step Gallery) :=
  [.when false [.add .or (flag 0 "a")], .add .andNot (flag 0 "a"), .named "first",
    .when true [.add .or (flag 2 "b"), .when true [.named "neither"]]]

private theorem nestedSteps_reachable :
    ∀ addition ∈ supplied none nestedSteps, addition.operand.Reachable ⟨4⟩ :=
  List.forall_mem_cons.mpr ⟨flag_reachable "a" (by decide),
    List.forall_mem_singleton.mpr (flag_reachable "b" (by decide))⟩

private theorem nestedSteps_countsFit :
    ∀ addition ∈ supplied none nestedSteps, addition.operand.CountsFit :=
  List.forall_mem_cons.mpr ⟨flag_countsFit 0 "a",
    List.forall_mem_singleton.mpr (flag_countsFit 2 "b")⟩

theorem nestedSteps_built :
    ∃ built, ((performAll nestedSteps .empty ⟨4⟩).1.build ⟨9⟩).1 = .ok built ∧
      built.name = some "neither" ∧
      built.observedOn ⟨0⟩ twoFlags =
        ⟨.ok false, [.member ⟨0⟩ "a", .member ⟨0⟩ "b"], twoFlags⟩ := by
  rcases @built_by_left_fold Gallery _ with ⟨runs, builds⟩
  have ran := runs ⟨4⟩ none nestedSteps nestedSteps_reachable
  rcases builds ⟨4⟩ _ none nestedSteps _ nofun ran nestedSteps_countsFit ⟨9⟩ with ⟨_, built⟩
  rcases built _ _ rfl with ⟨built, made, name, answers⟩
  exact ⟨built, made, name, answers ⟨0⟩ twoFlags⟩

end

end Builder

end Criteria

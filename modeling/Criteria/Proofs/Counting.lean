import Criteria.Proofs.Chain

/-!
The laws of counting.

A counting criterion runs every operand and asks its quantifier about the number of those that hold.
The thresholds at the ends of the range ask what a conjunction or a disjunction asks, although those
stop early: where no operand fails, stopping early changes what is touched and not the verdict.
-/

namespace Criteria

variable {World : Type}

/-! ## Verdicts and their number -/

namespace Quantifier

private theorem accepts_exactly_iff (count found : Nat) :
    (exactly count).accepts found ↔
      (atLeast count).accepts found ∧ (atMost count).accepts found := by
  simp only [accepts, beq_iff_eq, decide_eq_true_iff]
  omega

variable (verdicts : List Bool)

private theorem count_true_eq_zero_iff :
    verdicts.count true = 0 ↔ ∀ verdict ∈ verdicts, verdict = false := by
  rw [List.count_eq_zero]
  constructor
  · intro absent verdict member
    cases verdict with
    | false => rfl
    | true => exact absurd member absent
  · intro neutrals member
    cases neutrals true member

private theorem count_true_eq_length_iff :
    verdicts.count true = verdicts.length ↔ ∀ verdict ∈ verdicts, verdict = true := by
  rw [List.count_eq_length]
  exact forall₂_congr fun _ _ => eq_comm

theorem accepts_atMost (count found : Nat) :
    (atMost count).accepts found = !(atLeast (count + 1)).accepts found := by
  simp only [accepts, ← decide_not, decide_eq_decide]
  omega

/-! What the thresholds at the ends of the range ask. -/

private theorem accepts_atLeast_one :
    (atLeast 1).accepts (verdicts.count true) =
      if ∀ verdict ∈ verdicts, verdict = false then false else true := by
  split
  case isTrue none =>
    rw [(count_true_eq_zero_iff verdicts).mpr none]
    rfl
  case isFalse other =>
    have counted : verdicts.count true ≠ 0 := fun zero =>
      other ((count_true_eq_zero_iff verdicts).mp zero)
    exact decide_eq_true (Nat.pos_of_ne_zero counted)

private theorem accepts_atLeast_length :
    (atLeast verdicts.length).accepts (verdicts.count true) =
      if ∀ verdict ∈ verdicts, verdict = true then true else false := by
  split
  case isTrue every =>
    rw [(count_true_eq_length_iff verdicts).mpr every]
    exact decide_eq_true (Nat.le_refl _)
  case isFalse other =>
    have counted : verdicts.count true ≠ verdicts.length := fun equal =>
      other ((count_true_eq_length_iff verdicts).mp equal)
    have most : verdicts.count true ≤ verdicts.length := List.count_le_length
    exact decide_eq_false (by omega)

end Quantifier

namespace Criterion

/-! ## Construction -/

section

variable {supply : Supply} {operands : List (Criterion World)} {quantifier : Quantifier}

theorem counting_nil :
    (counting quantifier ([] : List (Criterion World)) supply).1 =
      .error (noOperands "counting combinator") :=
  rfl

theorem counting_of_lt (nonempty : operands ≠ [])
    (out : operands.length < quantifier.threshold) :
    (counting quantifier operands supply).1 =
      .error (.invalidArgument (quantifier.text ++ " is out of range for " ++
        toString operands.length ++ " specifications")) := by
  unfold counting
  rw [if_neg (by simpa using nonempty), if_pos out]
  rfl

theorem exists_counting_of_small (nonempty : operands ≠ [])
    (inRange : quantifier.threshold ≤ operands.length)
    (small : quantifier.threshold < Number.int64Bound) :
    ∃ counted, (counting quantifier operands supply).1 = .ok counted := by
  cases operands with
  | nil => exact absurd rfl nonempty
  | cons first rest =>
      have joins : ∃ sum, Balanced.join? Term.add (((first :: rest).map
          (·.predicate.bodyOn ⟨supply.next, first.bound.name⟩)).map unitFor) = some sum :=
        Balanced.exists_join?_of_ne_nil (List.cons_ne_nil _ _)
      rcases joins with ⟨sum, joined⟩
      have exact := Number.toInt64?_ofNat small
      unfold counting
      rw [if_neg (by simp), if_neg (Nat.not_lt.mpr inRange), Fresh.bind_run, rebindAll_run]
      dsimp only
      rw [joined, exact]
      exact ⟨_, rfl⟩

theorem exists_counting (nonempty : operands ≠ [])
    (inRange : quantifier.threshold ≤ operands.length)
    (few : operands.length < Number.int64Bound) :
    ∃ counted, (counting quantifier operands supply).1 = .ok counted :=
  exists_counting_of_small nonempty inRange (Nat.lt_of_le_of_lt inRange few)

end

/-! ## Evaluation -/

section

variable [Records World]

theorem tally_eq (entity : Record) (operands : List (Criterion World)) (count : Nat) :
    tally entity operands count =
      (count + ·.count true) <$> operands.mapM (·.evaluate entity) := by
  induction operands generalizing count with
  | nil => rfl
  | cons operand operands induction =>
      rw [Probe.mapM_cons_eq, tally, map_bind]
      congr 1
      funext verdict
      cases verdict
      · simp [induction]
      · simp [induction, Nat.add_comm, Nat.add_left_comm]

def answerOn (criterion : Criterion World) (entity : Record) (world : World) :
    Except Failure Bool :=
  (criterion.evaluate entity world).answer

/-- Whether the criterion holds in a world, as one that fails does not. -/
def holdsOn (criterion : Criterion World) (entity : Record) (world : World) : Bool :=
  (criterion.answerOn entity world).toOption.getD false

theorem holdsOn_of_answerOn {criterion : Criterion World} {entity : Record} {world : World}
    {verdict : Bool} (answered : criterion.answerOn entity world = .ok verdict) :
    criterion.holdsOn entity world = verdict := by
  rw [holdsOn, answered]
  rfl

theorem answerOn_of_observedOn {criterion : Criterion World} {entity : Record} {world : World}
    {verdict : Bool} (observed : (criterion.observedOn entity world).answer = .ok verdict) :
    criterion.answerOn entity world = .ok verdict :=
  (Probe.observed_answer_eq_ok_iff Failure.unnamed).mp observed

private theorem evaluate_of_count {criterion : Criterion World} {operands : List (Criterion World)}
    {quantifier : Quantifier} (method : criterion.method = .count operands quantifier)
    (entity : Record) :
    criterion.evaluate entity =
      (fun verdicts => quantifier.accepts (verdicts.count true)) <$>
        operands.mapM (·.evaluate entity) := by
  rcases criterion with ⟨identity, name, predicate, how⟩
  change how = .count operands quantifier at method
  subst method
  rw [evaluate, tally_eq, ← map_eq_pure_bind, Functor.map_map]
  simp only [Nat.zero_add]

variable {supply : Supply} {operands : List (Criterion World)} {quantifier : Quantifier}
  {counted : Criterion World}

theorem MadeSince.evaluate_counting (made : MadeSince supply (counting quantifier operands) counted)
    (entity : Record) :
    counted.evaluate entity =
      (fun verdicts => quantifier.accepts (verdicts.count true)) <$>
        operands.mapM (·.evaluate entity) := by
  rcases made with ⟨now, _, made⟩
  have run : counting quantifier operands now =
      (.ok counted, (counting quantifier operands now).2) :=
    Prod.ext made rfl
  exact evaluate_of_count (counting_of_ok run).2.2.1 entity

omit [Records World] in
private theorem MadeSince.ne_nil (made : MadeSince supply (counting quantifier operands) counted) :
    operands ≠ [] := by
  rcases made with ⟨now, _, made⟩
  intro empty
  rw [empty, counting_nil] at made
  cases made

/-! ## Where no operand fails -/

variable {entity : Record} {world after : World} {verdicts : List Bool} {touches : List Touch}

theorem answerOn_counting (made : MadeSince supply (counting quantifier operands) counted)
    (ran : Probe.Answered (·.evaluate entity) operands world verdicts touches after) :
    counted.answerOn entity world = .ok (quantifier.accepts (verdicts.count true)) := by
  rw [answerOn, made.evaluate_counting, Probe.map_run, ran.mapM]
  rfl

theorem answerOn_scan {criterion : Criterion World} {neutral : Bool}
    (scans : criterion.observedOn entity = Probe.scan neutral (·.observedOn entity) operands)
    (ran : Probe.Answered (·.evaluate entity) operands world verdicts touches after) :
    criterion.answerOn entity world =
      .ok (if ∀ verdict ∈ verdicts, verdict = neutral then neutral else !neutral) := by
  apply answerOn_of_observedOn
  rw [scans]
  exact (ran.observed Failure.unnamed).scan

private theorem answerOn_all {every : Criterion World}
    (made : MadeSince supply (all operands) every)
    (reachable : ∀ operand ∈ operands, operand.Reachable supply)
    (fits : ∀ operand ∈ operands, operand.CountsFit)
    (ran : Probe.Answered (·.evaluate entity) operands world verdicts touches after) :
    every.answerOn entity world =
      .ok (if ∀ verdict ∈ verdicts, verdict = true then true else false) := by
  rcases made.run reachable with ⟨now, later, made, sound⟩
  exact answerOn_scan (observedOn_all made sound fits entity) ran

theorem answerOn_anyOf {any : Criterion World} (made : MadeSince supply (anyOf operands) any)
    (reachable : ∀ operand ∈ operands, operand.Reachable supply)
    (fits : ∀ operand ∈ operands, operand.CountsFit)
    (ran : Probe.Answered (·.evaluate entity) operands world verdicts touches after) :
    any.answerOn entity world =
      .ok (if ∀ verdict ∈ verdicts, verdict = false then false else true) := by
  rcases made.run reachable with ⟨now, later, made, sound⟩
  exact answerOn_scan (observedOn_anyOf made sound fits entity) ran

private theorem answerOn_noneOf {none : Criterion World}
    (made : MadeSince supply (noneOf operands) none)
    (reachable : ∀ operand ∈ operands, operand.Reachable supply)
    (fits : ∀ operand ∈ operands, operand.CountsFit)
    (ran : Probe.Answered (·.evaluate entity) operands world verdicts touches after) :
    none.answerOn entity world =
      .ok (!if ∀ verdict ∈ verdicts, verdict = false then false else true) := by
  rcases made.run reachable with ⟨now, later, made, sound⟩
  have scanned : (Probe.scan false (·.observedOn entity) operands world).answer = _ :=
    (ran.observed Failure.unnamed).scan
  apply answerOn_of_observedOn
  rw [observedOn_noneOf made sound fits, Probe.map_run]
  dsimp only
  rw [scanned]
  rfl

/-! ## Where operands can be asked again -/

private theorem exists_own_verdicts {steady : World → Prop}
    (ran : Probe.Answered (·.evaluate entity) operands world verdicts touches after)
    (repeats : ∀ operand ∈ operands, (operand.evaluate entity).Repeats steady)
    (still : steady world) :
    ∀ operand ∈ operands, ∃ verdict, (operand.evaluate entity).Settles steady (.ok verdict) := by
  induction ran with
  | nil => nofun
  | @cons operand operands world between after verdict verdicts touches more ran _ induction =>
      have answered : operand.answerOn entity world = .ok verdict := congrArg Outcome.answer ran
      have settles := (repeats operand List.mem_cons_self).settles still answered
      have stays := (settles world still).2
      rw [ran] at stays
      refine List.forall_mem_cons.mpr ⟨⟨verdict, settles⟩, ?_⟩
      exact induction (fun other member => repeats other (List.mem_cons_of_mem operand member))
        stays

private theorem settles_counting {steady : World → Prop} {own : Criterion World → Bool}
    (made : MadeSince supply (counting quantifier operands) counted)
    (settles : ∀ operand ∈ operands, (operand.evaluate entity).Settles steady (.ok (own operand))) :
    (counted.evaluate entity).Settles steady (.ok (quantifier.accepts (operands.countP own))) := by
  have answers : operands.mapM (fun operand => (.ok (own operand) : Except Failure Bool)) =
      .ok (operands.map own) := List.mapM_pure
  have counts : (operands.map own).count true = operands.countP own := by
    rw [List.count_eq_countP, List.countP_map]
    congr 1
    funext operand
    simp
  have settled := Probe.settles_map (fun verdicts => quantifier.accepts (verdicts.count true))
    (Probe.settles_mapM settles)
  rw [answers] at settled
  rw [made.evaluate_counting, ← counts]
  exact settled

theorem answerOn_perm {steady : World → Prop} {shuffled : List (Criterion World)}
    {other : Criterion World}
    (settles : ∀ operand ∈ operands, ∃ verdict,
      (operand.evaluate entity).Settles steady (.ok verdict))
    (still : steady world) (permutation : shuffled.Perm operands)
    (made : MadeSince supply (counting quantifier operands) counted)
    (otherMade : MadeSince supply (counting quantifier shuffled) other) :
    other.answerOn entity world = counted.answerOn entity world := by
  have ownSettles : ∀ operand ∈ operands,
      (operand.evaluate entity).Settles steady (.ok (operand.holdsOn entity world)) := by
    intro operand member
    rcases settles operand member with ⟨verdict, settles⟩
    rwa [holdsOn_of_answerOn (settles world still).1]
  have shuffledSettles := fun operand member =>
    ownSettles operand (permutation.mem_iff.mp member)
  have answer := (settles_counting made ownSettles world still).1
  have otherAnswer := (settles_counting otherMade shuffledSettles world still).1
  rw [permutation.countP_eq (·.holdsOn entity world)] at otherAnswer
  exact otherAnswer.trans answer.symm

/-! ## The laws -/

/-- Counting over any list of operands.

A count is refused for an empty list and for a threshold beyond the number of operands, and
otherwise made. It runs every operand, in order and once, and accepts the number of those that hold;
or it fails with the first operand that fails. Where none fails, the three quantifiers relate as
their names say, and at the ends of the range they give the verdicts of the chains. Where the
operands can be asked again as well, which is so where their reads and tests can be repeated, their
order does not matter. -/
theorem counting_laws (reachable : ∀ operand ∈ operands, operand.Reachable supply)
    (fits : ∀ operand ∈ operands, operand.CountsFit)
    (few : operands.length < Number.int64Bound) :
    (∀ (quantifier : Quantifier) (now : Supply),
      (operands = [] → (counting quantifier operands now).1 =
        .error (noOperands "counting combinator")) ∧
      (operands ≠ [] → operands.length < quantifier.threshold →
        (counting quantifier operands now).1 =
          .error (.invalidArgument (quantifier.text ++ " is out of range for " ++
            toString operands.length ++ " specifications"))) ∧
      (operands ≠ [] → quantifier.threshold ≤ operands.length →
        ∃ counted, (counting quantifier operands now).1 = .ok counted)) ∧
    (∀ quantifier counted, MadeSince supply (counting quantifier operands) counted →
      ∀ entity world, ∃ outcome, Probe.InTurn (·.evaluate entity) operands world outcome ∧
        counted.evaluate entity world =
          { outcome with
            answer := outcome.answer.map fun verdicts =>
              quantifier.accepts (verdicts.count true) }) ∧
    (∀ entity world verdicts touches after,
      Probe.Answered (·.evaluate entity) operands world verdicts touches after →
      (∀ count exact least most, MadeSince supply (counting (.exactly count) operands) exact →
        MadeSince supply (counting (.atLeast count) operands) least →
        MadeSince supply (counting (.atMost count) operands) most →
        (exact.answerOn entity world = .ok true ↔
          least.answerOn entity world = .ok true ∧ most.answerOn entity world = .ok true)) ∧
      (∀ counted any, MadeSince supply (counting (.atLeast 1) operands) counted →
        MadeSince supply (anyOf operands) any →
        counted.answerOn entity world = any.answerOn entity world) ∧
      (∀ counted every,
        MadeSince supply (counting (.atMost (operands.length - 1)) operands) counted →
        MadeSince supply (all operands) every →
        counted.answerOn entity world = (every.answerOn entity world).map (! ·)) ∧
      (∀ counted every, MadeSince supply (counting (.atLeast operands.length) operands) counted →
        MadeSince supply (all operands) every →
        counted.answerOn entity world = every.answerOn entity world) ∧
      (∀ counted none, MadeSince supply (counting (.atMost 0) operands) counted →
        MadeSince supply (noneOf operands) none →
        counted.answerOn entity world = none.answerOn entity world) ∧
      ∀ (steady : World → Prop), steady world →
        (∀ operand ∈ operands, (operand.evaluate entity).Repeats steady) →
        ∀ shuffled quantifier counted other, shuffled.Perm operands →
          MadeSince supply (counting quantifier operands) counted →
          MadeSince supply (counting quantifier shuffled) other →
          other.answerOn entity world = counted.answerOn entity world) ∧
    ∀ (steady : World → Prop) (known : Value → Prop) (entity : Record), ∀ operand ∈ operands,
      operand.body.Repeatable steady known entity → (operand.evaluate entity).Repeats steady := by
  refine ⟨?_, ?_, ?_, ?_⟩
  · intro quantifier now
    refine ⟨?_, counting_of_lt, fun nonempty inRange => exists_counting nonempty inRange few⟩
    intro empty
    rw [empty]
    exact counting_nil
  · intro quantifier counted made entity world
    refine ⟨_, Probe.inTurn_mapM _ operands world, ?_⟩
    rw [made.evaluate_counting, Probe.map_run]
  · intro entity world verdicts touches after ran
    have lengths := ran.length_eq
    refine ⟨?_, ?_, ?_, ?_, ?_, ?_⟩
    · intro count exact least most exactMade leastMade mostMade
      rw [answerOn_counting exactMade ran, answerOn_counting leastMade ran,
        answerOn_counting mostMade ran]
      simpa using Quantifier.accepts_exactly_iff count (verdicts.count true)
    · intro counted any made anyMade
      rw [answerOn_counting made ran, answerOn_anyOf anyMade reachable fits ran,
        Quantifier.accepts_atLeast_one]
    · intro counted every made everyMade
      have length : operands.length - 1 + 1 = verdicts.length := by
        rw [lengths, Nat.sub_add_cancel (List.length_pos_iff.mpr made.ne_nil)]
      rw [answerOn_counting made ran, answerOn_all everyMade reachable fits ran,
        Quantifier.accepts_atMost, length, Quantifier.accepts_atLeast_length]
      rfl
    · intro counted every made everyMade
      rw [answerOn_counting made ran, answerOn_all everyMade reachable fits ran, ← lengths,
        Quantifier.accepts_atLeast_length]
    · intro counted none made noneMade
      rw [answerOn_counting made ran, answerOn_noneOf noneMade reachable fits ran,
        Quantifier.accepts_atMost, Quantifier.accepts_atLeast_one]
    · intro steady still repeats shuffled quantifier counted other permutation made otherMade
      exact answerOn_perm (exists_own_verdicts ran repeats still) still permutation made otherMade
  · intro steady known entity operand member repeatable
    exact (reachable operand member).sound.repeats (fits operand member) repeatable

end

section

open Sample

private theorem oneFlag_made : MadeSince ⟨4⟩ (counting (.exactly 1) flagPair) oneFlag := by
  refine ⟨⟨4⟩, Nat.le_refl 4, ?_⟩
  rw [flagPair, counting_flags]

private theorem flagPair_answered :
    Probe.Answered (·.evaluate ⟨0⟩) flagPair twoFlags [true, false]
      [.member ⟨0⟩ "a", .member ⟨0⟩ "b"] twoFlags := by
  have first : (flag 0 "a").evaluate ⟨0⟩ twoFlags =
    ⟨.ok true, [.member ⟨0⟩ "a"], twoFlags⟩ := rfl
  have second : (flag 2 "b").evaluate ⟨0⟩ twoFlags =
    ⟨.ok false, [.member ⟨0⟩ "b"], twoFlags⟩ := rfl
  exact .cons first (.cons second .nil)

private theorem flagPair_repeats :
    ∀ operand ∈ flagPair, (operand.evaluate ⟨0⟩).Repeats (· = twoFlags) := by
  refine List.forall_mem_cons.mpr ⟨⟨.ok true, ?_⟩, List.forall_mem_singleton.mpr ⟨.ok false, ?_⟩⟩
  · intro world still
    cases still
    exact ⟨rfl, rfl⟩
  · intro world still
    cases still
    exact ⟨rfl, rfl⟩

theorem oneFlag_counts :
    (∃ outcome, Probe.InTurn (·.evaluate ⟨0⟩) flagPair twoFlags outcome ∧
      oneFlag.evaluate ⟨0⟩ twoFlags =
        { outcome with
          answer := outcome.answer.map fun verdicts =>
            (Quantifier.exactly 1).accepts (verdicts.count true) }) ∧
    (∃ most every, MadeSince ⟨4⟩ (counting (.atMost 1) flagPair) most ∧
      MadeSince ⟨4⟩ (all flagPair) every ∧
      most.answerOn ⟨0⟩ twoFlags = (every.answerOn ⟨0⟩ twoFlags).map (! ·)) ∧
    ∃ swapped, MadeSince ⟨4⟩ (counting (.exactly 1) flagPair.reverse) swapped ∧
      swapped.answerOn ⟨0⟩ twoFlags = oneFlag.answerOn ⟨0⟩ twoFlags := by
  have laws := counting_laws flagPair_reachable flagPair_countsFit (by decide)
  rcases laws with ⟨construction, evaluation, answered, _⟩
  rcases answered ⟨0⟩ twoFlags _ _ _ flagPair_answered with ⟨_, _, most_every, _, _, order⟩
  refine ⟨evaluation _ oneFlag oneFlag_made ⟨0⟩ twoFlags, ?_, ?_⟩
  · rcases (construction (.atMost 1) ⟨4⟩).2.2 (List.cons_ne_nil _ _) (by decide) with ⟨most, made⟩
    rcases exists_all_flagPair with ⟨every, everyMade⟩
    have since : MadeSince ⟨4⟩ (counting (.atMost 1) flagPair) most := ⟨⟨4⟩, Nat.le_refl 4, made⟩
    exact ⟨most, every, since, everyMade, most_every most every since everyMade⟩
  · have nonempty : flagPair.reverse ≠ [] := List.cons_ne_nil _ _
    have made : ∃ swapped, (counting (.exactly 1) flagPair.reverse ⟨4⟩).1 = .ok swapped :=
      exists_counting nonempty (by decide) (by decide)
    rcases made with ⟨swapped, made⟩
    have since : MadeSince ⟨4⟩ (counting (.exactly 1) flagPair.reverse) swapped :=
      ⟨⟨4⟩, Nat.le_refl 4, made⟩
    exact ⟨swapped, since,
      order (· = twoFlags) rfl flagPair_repeats _ _ _ _ flagPair.reverse_perm oneFlag_made since⟩

def shows (verdict : Bool) : Criterion Clock :=
  (compare ⟨[.member "on"]⟩ .eq (.bool verdict) ⟨0⟩).1

/-- No operand fails, and yet the order decides: what the second operand reads is what the first one
left behind. -/
theorem order_matters_where_reads_change :
    (∀ operand ∈ [shows true, shows false], operand.Reachable ⟨2⟩) ∧ ∃ counted swapped,
      (counting (.exactly 2) [shows true, shows false] ⟨2⟩).1 = .ok counted ∧
      (counting (.exactly 2) [shows false, shows true] ⟨2⟩).1 = .ok swapped ∧
      Probe.Answered (·.evaluate ⟨0⟩) [shows true, shows false] ⟨0⟩ [true, true]
        [.member ⟨0⟩ "on", .member ⟨0⟩ "on"] ⟨2⟩ ∧
      counted.answerOn ⟨0⟩ ⟨0⟩ = .ok true ∧ swapped.answerOn ⟨0⟩ ⟨0⟩ = .ok false := by
  have first (reads : Nat) (verdict : Bool) : (shows verdict).evaluate ⟨0⟩ ⟨reads⟩ =
      ⟨.ok ((reads % 2 == 0) == verdict), [.member ⟨0⟩ "on"], ⟨reads + 1⟩⟩ := rfl
  have ran : Probe.Answered (·.evaluate ⟨0⟩) [shows true, shows false] ⟨0⟩ [true, true]
      [.member ⟨0⟩ "on", .member ⟨0⟩ "on"] ⟨2⟩ := .cons (first 0 true) (.cons (first 1 false) .nil)
  have otherRan : Probe.Answered (·.evaluate ⟨0⟩) [shows false, shows true] ⟨0⟩ [false, false]
      [.member ⟨0⟩ "on", .member ⟨0⟩ "on"] ⟨2⟩ := .cons (first 0 false) (.cons (first 1 true) .nil)
  rcases @exists_counting Clock ⟨2⟩ [shows true, shows false] (.exactly 2) (List.cons_ne_nil _ _)
    (by decide) (by decide) with ⟨counted, made⟩
  rcases @exists_counting Clock ⟨2⟩ [shows false, shows true] (.exactly 2) (List.cons_ne_nil _ _)
    (by decide) (by decide) with ⟨swapped, otherMade⟩
  refine ⟨List.forall_mem_cons.mpr ⟨.compare rfl, List.forall_mem_singleton.mpr (.compare rfl)⟩, ?_⟩
  exact ⟨counted, swapped, made, otherMade, ran,
    answerOn_counting ⟨⟨2⟩, Nat.le_refl 2, made⟩ ran,
    answerOn_counting ⟨⟨2⟩, Nat.le_refl 2, otherMade⟩ otherRan⟩

end

end Criterion

end Criteria

import Criteria.Proofs.Agreement
import Criteria.Proofs.Judgement
import Criteria.Proofs.Steady

/-!
The truth tables of the connectives.

A combination asks its operands for their verdicts in an order of its own, and two of the
connectives ask the same operand twice. So the table is the answer where asking can be repeated.
Everything else holds without that: the left operand is asked first, its failure is the failure of
the whole, and where it decides alone the right one is left untouched.
-/

namespace Criteria

variable {World : Type}

/-! ## Connectives as computations

What a connective does with its operands is the same for evaluations and for verdicts. -/

namespace Connective

section

variable {Effect : Type → Type} [Monad Effect]

def both (left right : Effect Bool) : Effect Bool := do
  if ← left then right else return false

def either (left right : Effect Bool) : Effect Bool := do
  if ← left then return true else right

def opposite (operand : Effect Bool) : Effect Bool := do
  return !(← operand)

def compute : Connective → Effect Bool → Effect Bool → Effect Bool
  | .and, left, right => both left right
  | .or, left, right => either left right
  | .andNot, left, right => both left (opposite right)
  | .xor, left, right => either (both left (opposite right)) (both (opposite left) right)
  | .implies, left, right => either (opposite left) right
  | .iff, left, right => either (both left right) (both (opposite left) (opposite right))
  | .nand, left, right => opposite (both left right)
  | .nor, left, right => opposite (either left right)

end

private theorem holds_join [Records World] (connective : Connective) (scope : Scope)
    (left right : Term World) :
    (connective.join left right).holds scope =
      connective.compute (left.holds scope) (right.holds scope) := by
  cases connective <;>
    simp only [join, compute, both, either, opposite, Term.holds_and, Term.holds_or,
      Term.holds_not]

private theorem observed_compute (connective : Connective) (view : Failure → Failure)
    (left right : Probe World Bool) :
    (connective.compute left right).observed view =
      connective.compute (left.observed view) (right.observed view) := by
  cases connective <;> simp [compute, both, either, opposite]

/-! ## The tables -/

def decides : Connective → Bool → Option Bool
  | .and, false => some false
  | .or, true => some true
  | .andNot, false => some false
  | .implies, false => some true
  | .nand, false => some true
  | .nor, true => some false
  | _, _ => none

/-- The verdict for a left operand that gave one and a right operand that gave one or failed. -/
def verdict : Connective → Bool → Except Failure Bool → Except Failure Bool
  | .and, left, right => if left then right else .ok false
  | .or, left, right => if left then .ok true else right
  | .andNot, left, right => if left then right.map (!·) else .ok false
  | .xor, left, right => right.map (left != ·)
  | .implies, left, right => if left then right else .ok true
  | .iff, left, right => right.map (left == ·)
  | .nand, left, right => if left then right.map (!·) else .ok true
  | .nor, left, right => if left then .ok false else right.map (!·)

private theorem compute_ok (connective : Connective) (left : Bool) (right : Except Failure Bool) :
    connective.compute (.ok left) right = connective.verdict left right := by
  cases connective <;> cases left <;> rcases right with failure | (_ | _) <;> rfl

theorem compute_eq_bind (connective : Connective) (left right : Probe World Bool) :
    ∃ rest : Bool → Probe World Bool, connective.compute left right = left >>= rest ∧
      ∀ leftVerdict decided, connective.decides leftVerdict = some decided →
        rest leftVerdict = pure decided := by
  cases connective with
  | and | or | andNot =>
      refine ⟨_, rfl, ?_⟩
      intro leftVerdict decided decides
      cases leftVerdict <;> cases decides
      rfl
  | implies | nand | nor =>
      refine ⟨_, bind_assoc left _ _, ?_⟩
      intro leftVerdict decided decides
      cases leftVerdict <;> cases decides
      rfl
  | xor | iff => exact ⟨_, bind_assoc left _ _, nofun⟩

section

variable (connective : Connective) {left right : Probe World Bool} {world after : World}
  {touches : List Touch}

private theorem compute_of_error {failure : Failure}
    (ran : left world = ⟨.error failure, touches, after⟩) :
    connective.compute left right world = ⟨.error failure, touches, after⟩ := by
  rcases connective.compute_eq_bind left right with ⟨rest, equal, _⟩
  rw [equal, Probe.bind_of_error ran]

private theorem compute_of_decides {leftVerdict decided : Bool}
    (ran : left world = ⟨.ok leftVerdict, touches, after⟩)
    (decides : connective.decides leftVerdict = some decided) :
    connective.compute left right world = ⟨.ok decided, touches, after⟩ := by
  rcases connective.compute_eq_bind left right with ⟨rest, equal, finished⟩
  rw [equal, Probe.bind_of_ok ran, finished leftVerdict decided decides]
  change Outcome.mk _ (touches ++ []) _ = _
  rw [List.append_nil]
  rfl

end

end Connective

/-! ## Asking again -/

namespace Connective

variable {steady : World → Prop} {left right : Probe World Bool}
  {leftResult rightResult : Except Failure Bool}

private theorem settles_both (leftSettles : left.Settles steady leftResult)
    (rightSettles : right.Settles steady rightResult) :
    (both left right).Settles steady (both leftResult rightResult) := by
  refine Probe.settles_bind leftSettles ?_
  intro verdict _
  cases verdict with
  | false => exact Probe.settles_pure false
  | true => exact rightSettles

private theorem settles_either (leftSettles : left.Settles steady leftResult)
    (rightSettles : right.Settles steady rightResult) :
    (either left right).Settles steady (either leftResult rightResult) := by
  refine Probe.settles_bind leftSettles ?_
  intro verdict _
  cases verdict with
  | false => exact rightSettles
  | true => exact Probe.settles_pure true

private theorem settles_opposite (settles : left.Settles steady leftResult) :
    (opposite left).Settles steady (opposite leftResult) :=
  Probe.settles_bind settles fun verdict _ => Probe.settles_pure (!verdict)

theorem settles_compute (connective : Connective) (leftSettles : left.Settles steady leftResult)
    (rightSettles : right.Settles steady rightResult) :
    (connective.compute left right).Settles steady (connective.compute leftResult rightResult) := by
  cases connective with
  | and => exact settles_both leftSettles rightSettles
  | or => exact settles_either leftSettles rightSettles
  | andNot => exact settles_both leftSettles (settles_opposite rightSettles)
  | xor =>
      exact settles_either (settles_both leftSettles (settles_opposite rightSettles))
        (settles_both (settles_opposite leftSettles) rightSettles)
  | implies => exact settles_either (settles_opposite leftSettles) rightSettles
  | iff =>
      exact settles_either (settles_both leftSettles rightSettles)
        (settles_both (settles_opposite leftSettles) (settles_opposite rightSettles))
  | nand => exact settles_opposite (settles_both leftSettles rightSettles)
  | nor => exact settles_opposite (settles_either leftSettles rightSettles)

end Connective

/-! ## Reads and tests that can be repeated -/

def Judgement.settling (steady : World → Prop) : Judgement World where
  Passes probe condition :=
    ∃ result, probe.Settles steady result ∧ ∀ answer, result = .ok answer → condition answer
  pure holds := by
    refine ⟨_, Probe.settles_pure _, ?_⟩
    intro found equal
    cases equal
    exact holds
  fail _ := ⟨_, fun _ still => ⟨rfl, still⟩, nofun⟩
  bind := by
    intro Answer Next probe next before condition first rest
    rcases first with ⟨result, settles, holds⟩
    cases result with
    | error failure =>
        have stuck : (probe >>= next).Settles steady
            (.error failure >>= fun _ : Answer => .error failure) :=
          Probe.settles_bind settles nofun
        exact ⟨.error failure, stuck, nofun⟩
    | ok answer =>
        rcases rest answer (holds answer rfl) with ⟨last, lastSettles, lastHolds⟩
        have settled : (probe >>= next).Settles steady (.ok answer >>= fun _ => last) := by
          refine Probe.settles_bind settles ?_
          intro found equal
          cases equal
          exact lastSettles
        exact ⟨last, settled, lastHolds⟩

/-- Reading a member, calling a method and running a test of the term give the same in every steady
world, for all values that reads and calls lead to, and leave a steady world behind. -/
structure Term.Repeatable [Records World] (steady : World → Prop) (known : Value → Prop)
    (entity : Record) (term : Term World) : Prop where
  bool : ∀ verdict, known (.bool verdict)
  int : ∀ value, known (.int value)
  float : ∀ value, known (.float value)
  literal : ∀ {value}, term.Contains (.literal value) → known value
  own : known (.record entity)
  member : ∀ {record name}, known (.record record) →
    ∃ found, (Probe.askMember record name).Settles steady (.ok found) ∧
      ∀ value, found = some value → known value
  call : ∀ {record method arguments}, known (.record record) →
    (∀ argument ∈ arguments, known argument) →
    ∃ found, (Probe.askCall record method arguments).Settles steady (.ok found) ∧
      ∀ value, found = some value → known value
  valueTest : ∀ {subject operator operand check value},
    term.Contains (.test subject operator operand check) → known value →
    ∃ result, (check.run value).Settles steady result
  entityTest : ∀ {symbol label check}, term.Contains (.custom symbol label check) →
    ∃ result, (check.run entity).Settles steady result

namespace Term.Repeatable

variable [Records World] {steady : World → Prop} {known : Value → Prop} {entity : Record}
  {term : Term World}

theorem supports (repeatable : term.Repeatable steady known entity) (bound : Variable) :
    (Judgement.settling steady).Supports known ⟨bound, entity⟩ term where
  expect symbol _ := by
    rw [Scope.expect]
    split
    · exact (Judgement.settling steady).pure trivial
    · refine ⟨.error _, fun _ still => ⟨rfl, still⟩, ?_⟩
      intro answer equal
      cases equal
  bool := repeatable.bool
  int := repeatable.int
  float := repeatable.float
  literal := repeatable.literal
  entity := repeatable.own
  member recordKnown := by
    rcases repeatable.member recordKnown with ⟨found, settles, foundKnown⟩
    refine Judgement.passes_readMember _ ⟨.ok found, settles, ?_⟩
    intro answer equal
    cases equal
    exact foundKnown
  call recordKnown argumentsKnown := by
    rcases repeatable.call recordKnown argumentsKnown with ⟨found, settles, foundKnown⟩
    refine Judgement.passes_callMethod _ ⟨.ok found, settles, ?_⟩
    intro answer equal
    cases equal
    exact foundKnown
  valueTest part subjectPasses := by
    refine Judgement.bind _ subjectPasses ?_
    intro value valueKnown
    rcases repeatable.valueTest part valueKnown with ⟨result, settles⟩
    exact ⟨result, fun world still => by rw [Probe.touch_bind]; exact settles world still,
      fun _ _ => trivial⟩
  entityTest part := by
    rcases repeatable.entityTest part with ⟨result, settles⟩
    exact ⟨result, fun world still => by rw [Probe.touch_bind]; exact settles world still,
      fun _ _ => trivial⟩

end Term.Repeatable

namespace Probe

/-- What is observed of the answer can be asked for again, as often as one likes. -/
def Repeats (steady : World → Prop) (probe : Probe World Bool) : Prop :=
  ∃ result, (probe.observed Failure.unnamed).Settles steady result

theorem repeats_of_settles {steady : World → Prop} {probe : Probe World Bool}
    {result : Except Failure Bool} (settles : probe.Settles steady result) :
    probe.Repeats steady := by
  refine ⟨result.mapError Failure.unnamed, ?_⟩
  intro world still
  rcases settles world still with ⟨equal, stays⟩
  exact ⟨congrArg (Except.mapError Failure.unnamed) equal, stays⟩

theorem Repeats.settles {steady : World → Prop} {probe : Probe World Bool} {world : World}
    {verdict : Bool} (repeats : probe.Repeats steady) (still : steady world)
    (answered : (probe world).answer = .ok verdict) : probe.Settles steady (.ok verdict) := by
  rcases repeats with ⟨result, settles⟩
  have verdictIs : result = .ok verdict := (settles world still).1.symm.trans
    ((observed_answer_eq_ok_iff Failure.unnamed).mpr answered)
  intro other otherStill
  rcases settles other otherStill with ⟨again, stays⟩
  rw [verdictIs] at again
  exact ⟨(observed_answer_eq_ok_iff Failure.unnamed).mp again, stays⟩

theorem Agrees.repeats {steady : World → Prop} {left right : Probe World Bool}
    (agrees : left.Agrees right) (repeats : right.Repeats steady) : left.Repeats steady := by
  rcases repeats with ⟨result, settles⟩
  exact ⟨result, by rwa [agrees]⟩

end Probe

namespace Criterion

variable [Records World]

/-! ## Combinations -/

def observedOn (criterion : Criterion World) (entity : Record) : Probe World Bool :=
  (criterion.evaluate entity).observed Failure.unnamed

theorem Sound.repeats {limit : Nat} {criterion : Criterion World} (sound : Sound limit criterion)
    (fits : CountsFit criterion) {steady : World → Prop} {known : Value → Prop} {entity : Record}
    (repeatable : criterion.body.Repeatable steady known entity) :
    (criterion.evaluate entity).Repeats steady := by
  rcases Judgement.passes_holds (repeatable.supports criterion.bound) with ⟨result, settles, _⟩
  exact (sound.evaluate_agrees fits entity).repeats (Probe.repeats_of_settles settles)

/-- An operand that was moved to a new variable is observed as when it stands alone. -/
theorem Sound.observed_bodyOn {supply : Supply} {operand : Criterion World}
    (sound : Sound supply.next operand) (fits : CountsFit operand) (name : String)
    (entity : Record) :
    ((operand.predicate.bodyOn ⟨supply.next, name⟩).holds
        ⟨⟨supply.next, name⟩, entity⟩).observed Failure.unnamed =
      operand.observedOn entity := by
  have apart : ¬ operand.predicate.bound.same ⟨supply.next, name⟩ := by
    rw [Variable.same_iff]
    exact Nat.ne_of_lt sound.drawn
  exact (sound.closed.agrees_bodyOn apart entity).trans (sound.evaluate_agrees fits entity).symm

theorem observedOn_combine {supply : Supply} {left right : Criterion World}
    (leftSound : Sound supply.next left) (rightSound : Sound supply.next right)
    (leftFits : CountsFit left) (rightFits : CountsFit right) (connective : Connective)
    (entity : Record) :
    (combine connective left right supply).1.observedOn entity =
      connective.compute (left.observedOn entity) (right.observedOn entity) := by
  rw [← leftSound.observed_bodyOn leftFits left.bound.name,
    ← rightSound.observed_bodyOn rightFits left.bound.name, ← Connective.observed_compute,
    ← Connective.holds_join]
  rfl

theorem observedOn_negate {supply : Supply} {operand : Criterion World}
    (sound : Sound supply.next operand) (fits : CountsFit operand) (entity : Record) :
    (negate operand supply).1.observedOn entity = (! ·) <$> operand.observedOn entity := by
  rw [← sound.observed_bodyOn fits operand.bound.name, ← Probe.observed_map, map_eq_pure_bind,
    ← Term.holds_not]
  rfl

/-- The truth tables, for all reachable operands on one entity.

First come combinations of which the left operand fails, then those that it decides alone: the right
operand is neither read nor run. Then the table, wherever both operands can be asked again, which is
so where their reads and tests can be repeated. A negation fails with its operand, and the operators
make what the methods make. -/
theorem truth_tables {supply : Supply} {left right : Criterion World}
    (leftReachable : left.Reachable supply) (rightReachable : right.Reachable supply)
    (leftFits : left.CountsFit) (rightFits : right.CountsFit) (entity : Record) :
    (∀ connective world failure, (left.observedOn entity world).answer = .error failure →
      (combine connective left right supply).1.observedOn entity world =
        left.observedOn entity world) ∧
    (∀ connective world verdict decided, (left.observedOn entity world).answer = .ok verdict →
      connective.decides verdict = some decided →
      (combine connective left right supply).1.observedOn entity world =
        { left.observedOn entity world with answer := .ok decided }) ∧
    (∀ steady, (left.evaluate entity).Repeats steady → (right.evaluate entity).Repeats steady →
      ∀ connective world verdict, steady world →
        (left.observedOn entity world).answer = .ok verdict →
        ((combine connective left right supply).1.observedOn entity world).answer =
          connective.verdict verdict (right.observedOn entity world).answer) ∧
    (∀ steady known, ∀ operand ∈ [left, right],
      operand.body.Repeatable steady known entity → (operand.evaluate entity).Repeats steady) ∧
    (∀ operand ∈ [left, right], ∀ world,
      (negate operand supply).1.observedOn entity world =
        { operand.observedOn entity world with
          answer := (operand.observedOn entity world).answer.map (! ·) }) ∧
    (left &&& right : Fresh (Criterion World)) = combine .and left right ∧
    (left ||| right : Fresh (Criterion World)) = combine .or left right ∧
    (left ^^^ right : Fresh (Criterion World)) = combine .xor left right ∧
    ∀ operand : Criterion World, operand.complement = operand.negate := by
  have leftSound := leftReachable.sound
  have rightSound := rightReachable.sound
  have combined := fun connective =>
    observedOn_combine leftSound rightSound leftFits rightFits connective entity
  have both : ∀ operand ∈ [left, right], Sound supply.next operand ∧ operand.CountsFit := by
    intro operand member
    rcases List.mem_cons.mp member with rfl | member
    · exact ⟨leftSound, leftFits⟩
    · rw [List.mem_singleton.mp member]
      exact ⟨rightSound, rightFits⟩
  refine ⟨?_, ?_, ?_, ?_, ?_, rfl, rfl, rfl, fun _ => rfl⟩
  · intro connective world failure failed
    rw [combined]
    rcases ran : left.observedOn entity world with ⟨answer, touches, after⟩
    rw [ran] at failed
    cases failed
    exact connective.compute_of_error ran
  · intro connective world verdict decided answered decides
    rw [combined]
    rcases ran : left.observedOn entity world with ⟨answer, touches, after⟩
    rw [ran] at answered
    cases answered
    exact connective.compute_of_decides ran decides
  · intro steady leftRepeats rightRepeats connective world verdict still answered
    rcases leftRepeats with ⟨leftResult, leftSettles⟩
    rcases rightRepeats with ⟨rightResult, rightSettles⟩
    have settles := connective.settles_compute leftSettles rightSettles
    have leftEqual : .ok verdict = leftResult := answered.symm.trans (leftSettles world still).1
    have rightEqual : (right.observedOn entity world).answer = rightResult :=
      (rightSettles world still).1
    rw [combined, rightEqual, ← Connective.compute_ok, leftEqual]
    exact (settles world still).1
  · intro steady known operand member repeatable
    exact (both operand member).1.repeats (both operand member).2 repeatable
  · intro operand member world
    rw [observedOn_negate (both operand member).1 (both operand member).2, Probe.map_run]

section

open Sample

def twoFlags : Gallery :=
  ⟨#[.flags ⟨true, false⟩]⟩

theorem flag_countsFit (start : Nat) (name : String) : (flag start name).CountsFit :=
  .tree

private theorem part_of_flag {start : Nat} {name : String} {part : Term Gallery}
    (contains : (flag start name).body.Contains part) :
    part = .compare (.member (.var ⟨start, "x"⟩) name) .eq (.literal (.bool true)) ∨
      part = .member (.var ⟨start, "x"⟩) name ∨ part = .var ⟨start, "x"⟩ ∨
      part = .literal (.bool true) := by
  cases contains with
  | self => exact .inl rfl
  | child member contains =>
      rcases List.mem_cons.mp member with rfl | member
      · cases contains with
        | self => exact .inr (.inl rfl)
        | child member contains =>
            rw [List.mem_singleton.mp member] at contains
            cases contains with
            | self => exact .inr (.inr (.inl rfl))
            | child member => cases member
      · rw [List.mem_singleton.mp member] at contains
        cases contains with
        | self => exact .inr (.inr (.inr rfl))
        | child member => cases member

theorem flag_repeatable (start : Nat) (name : String) :
    (flag start name).body.Repeatable (· = twoFlags)
      (fun value => ∀ record, value = .record record → record = ⟨0⟩) ⟨0⟩ where
  bool := nofun
  int := nofun
  float := nofun
  literal part := by
    intro record equal
    cases equal
    rcases part_of_flag part with equal | equal | equal | equal <;> cases equal
  own := by
    intro record equal
    cases equal
    rfl
  member := by
    intro record name known
    cases known record rfl
    refine ⟨(Flags.mk true false).member? name, ?_, ?_⟩
    · intro world still
      cases still
      exact ⟨rfl, rfl⟩
    · intro value found record equal
      cases equal
      unfold Flags.member? at found
      split at found <;> cases found
  call := by
    intro record method arguments known _
    cases known record rfl
    refine ⟨none, ?_, nofun⟩
    intro world still
    cases still
    exact ⟨rfl, rfl⟩
  valueTest part := by
    rcases part_of_flag part with equal | equal | equal | equal <;> cases equal
  entityTest part := by
    rcases part_of_flag part with equal | equal | equal | equal <;> cases equal

theorem xor_of_two_flags :
    ((combine .xor (flag 0 "a") (flag 2 "b") ⟨4⟩).1.observedOn ⟨0⟩ twoFlags).answer = .ok true := by
  have tables := truth_tables (flag_reachable "a" (by decide : 0 + 2 ≤ 4))
    (flag_reachable "b" (by decide : 2 + 2 ≤ 4)) (flag_countsFit 0 "a") (flag_countsFit 2 "b") ⟨0⟩
  rcases tables with ⟨_, _, table, repeats, _⟩
  have left := repeats _ _ _ List.mem_cons_self (flag_repeatable 0 "a")
  have right := repeats _ _ _ (List.mem_cons_of_mem _ List.mem_cons_self) (flag_repeatable 2 "b")
  exact table _ left right .xor twoFlags true rfl rfl

end

end Criterion

end Criteria

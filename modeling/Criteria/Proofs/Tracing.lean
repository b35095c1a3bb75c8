import Criteria.Proofs.Skeleton
import Criteria.Proofs.TruthTable

/-!
What a trace says of an evaluation.

A short-circuit trace is plain evaluation that takes notes. Its entries are those of the units that
plain evaluation asks, and which units those are can be told from plain evaluation alone: a unit
that is not asked can be exchanged for any other condition, and one that is asked fails the whole
when it fails.

An exhaustive trace asks all units in turn. When reads can be repeated, all evaluations of one
entity see the same verdicts, and the short-circuit trace leaves out entries of the exhaustive one.
-/

namespace Criteria

variable {World : Type}

def marked {Item : Type} (items : List Item) (marks : List Bool) : List Item :=
  ((items.zip marks).filter (·.2)).map (·.1)

section

variable {Item : Type} {items more : List Item} {marks others : List Bool}

theorem marked_append (same : items.length = marks.length) :
    marked (items ++ more) (marks ++ others) = marked items marks ++ marked more others := by
  rw [marked, List.zip_append same, List.filter_append, List.map_append, marked, marked]

private theorem marked_replicate_false (items : List Item) (count : Nat) :
    marked items (List.replicate count false) = [] := by
  have unmarked : (items.zip (List.replicate count false)).filter (·.2) = [] := by
    rw [List.filter_eq_nil_iff]
    intro pair member
    rw [List.eq_of_mem_replicate (List.of_mem_zip member).2]
    exact Bool.false_ne_true
  rw [marked, unmarked, List.map_nil]

end

namespace Term

/-! ## Short-circuit traces -/

section

variable [Records World] {scope : Scope}

theorem fst_trace_shortCircuit (term : Term World) :
    Prod.fst <$> term.trace scope .shortCircuit = term.holds scope := by
  induction term using skeleton_induction with
  | unit term unit =>
      rw [trace_of_isUnit scope unit]
      simp only [map_eq_pure_bind, bind_assoc, pure_bind, bind_pure]
  | link neutral left right leftSame rightSame =>
      rw [holds_link, ← leftSame, ← rightSame, trace_link_shortCircuit]
      simp only [linkShort, Probe.chained, map_eq_pure_bind, bind_assoc, pure_bind]
      congr 1
      funext traced
      split <;> simp
  | not operand same =>
      rw [holds_not, ← same, trace_not]
      simp only [map_eq_pure_bind, bind_assoc, pure_bind]

/-- A record of an evaluation, together with a mark for each unit that was asked.

The entries come from the marked units, asked in turn, and nothing else is touched. Marks are a
matter of the evaluation and not of the trace: it stays as it is whatever stands at a place that is
not marked, and it fails when the unit at a marked place fails. -/
structure Recorded (scope : Scope) (term : Term World) (world : World) (verdict : Bool)
    (entries : Trace) (touches : List Touch) (after : World) (asked : List Bool) : Prop where
  length : asked.length = term.units.length
  holds : term.holds scope world = ⟨.ok verdict, touches, after⟩
  ran : Probe.Answered (entry scope) (marked term.units asked) world entries touches after
  skipped : ∀ position, asked[position]? = some false → ∀ standIn,
    (term.replaceUnit position standIn).holds scope world = ⟨.ok verdict, touches, after⟩
  reached : ∀ position, asked[position]? = some true → ∀ standIn failure,
    standIn.holds scope = Probe.fail failure →
    ((term.replaceUnit position standIn).holds scope world).answer = .error failure

namespace Recorded

variable {left right operand : Term World} {world between after : World} {neutral verdict : Bool}
  {entries more : Trace} {touches further : List Touch} {asked askedNext : List Bool}

private theorem unit {term : Term World} (unit : term.isUnit)
    (ran : term.holds scope world = ⟨.ok verdict, touches, after⟩) :
    Recorded scope term world verdict [⟨term.explain, verdict⟩] touches after [true] where
  length := by rw [units_of_isUnit unit]; rfl
  holds := ran
  ran := by
    have noted : entry scope term world = ⟨.ok ⟨term.explain, verdict⟩, touches ++ [], after⟩ :=
      Probe.bind_of_ok ran _
    rw [List.append_nil] at noted
    rw [units_of_isUnit unit, ← List.append_nil touches]
    exact .cons noted .nil
  skipped position mark := by
    cases position <;> cases mark
  reached position _ standIn failure fails := by
    rw [replaceUnit_of_isUnit unit, fails]
    rfl

private theorem not (recorded : Recorded scope operand world verdict entries touches after asked) :
    Recorded scope (.not operand) world (!verdict) entries touches after asked where
  length := recorded.length
  holds := by
    rw [holds_not, ← map_eq_pure_bind, Probe.map_run, recorded.holds]
    rfl
  ran := recorded.ran
  skipped position mark standIn := by
    rw [replaceUnit, holds_not, ← map_eq_pure_bind, Probe.map_run,
      recorded.skipped position mark standIn]
    rfl
  reached position mark standIn failure fails := by
    rw [replaceUnit, holds_not, ← map_eq_pure_bind, Probe.map_run,
      recorded.reached position mark standIn failure fails]
    rfl

/-! Positions of a link up to the last mark are places in its left part, all further ones in its
right part. -/

theorem holds_inside (recorded : Recorded scope left world verdict entries touches after asked)
    (neutral : Bool) (right standIn : Term World) {position : Nat}
    (inside : position < asked.length) :
    ((Term.link neutral left right).replaceUnit position standIn).holds scope =
      Probe.chained neutral ((left.replaceUnit position standIn).holds scope)
        (right.holds scope) := by
  rw [recorded.length] at inside
  rw [replaceUnit_link_left inside, holds_link]

theorem holds_beyond (recorded : Recorded scope left world verdict entries touches after asked)
    (neutral : Bool) (right standIn : Term World) {position : Nat}
    (beyond : asked.length ≤ position) :
    ((Term.link neutral left right).replaceUnit position standIn).holds scope =
      Probe.chained neutral (left.holds scope)
        ((right.replaceUnit (position - asked.length) standIn).holds scope) := by
  rw [recorded.length] at beyond ⊢
  rw [replaceUnit_link_right beyond, holds_link]

theorem link (first : Recorded scope left world neutral entries touches between asked)
    (second : Recorded scope right between verdict more further after askedNext) :
    Recorded scope (Term.link neutral left right) world verdict (entries ++ more)
      (touches ++ further) after (asked ++ askedNext) where
  length := by rw [units_link, List.length_append, List.length_append, first.length, second.length]
  holds := by rw [holds_link, Probe.chained_of_neutral first.holds, second.holds]
  ran := by
    rw [units_link, marked_append first.length.symm]
    exact first.ran.append second.ran
  skipped position mark standIn := by
    rcases Nat.lt_or_ge position asked.length with inside | beyond
    · rw [List.getElem?_append_left inside] at mark
      rw [first.holds_inside _ _ _ inside,
        Probe.chained_of_neutral (first.skipped position mark standIn), second.holds]
    · rw [List.getElem?_append_right beyond] at mark
      rw [first.holds_beyond _ _ _ beyond, Probe.chained_of_neutral first.holds,
        second.skipped _ mark standIn]
  reached position mark standIn failure fails := by
    rcases Nat.lt_or_ge position asked.length with inside | beyond
    · rw [List.getElem?_append_left inside] at mark
      rw [first.holds_inside _ _ _ inside]
      exact Probe.chained_of_failed (first.reached position mark standIn failure fails)
    · rw [List.getElem?_append_right beyond] at mark
      rw [first.holds_beyond _ _ _ beyond, Probe.chained_of_neutral first.holds]
      exact second.reached _ mark standIn failure fails

theorem link_decided (recorded : Recorded scope left world verdict entries touches after asked)
    (other : verdict ≠ neutral) (right : Term World) :
    Recorded scope (Term.link neutral left right) world verdict entries touches after
      (asked ++ List.replicate right.units.length false) where
  length := by
    rw [units_link, List.length_append, List.length_append, recorded.length,
      List.length_replicate]
  holds := by rw [holds_link, Probe.chained_of_decided recorded.holds other]
  ran := by
    rw [units_link, marked_append recorded.length.symm, marked_replicate_false, List.append_nil]
    exact recorded.ran
  skipped position mark standIn := by
    rcases Nat.lt_or_ge position asked.length with inside | beyond
    · rw [List.getElem?_append_left inside] at mark
      rw [recorded.holds_inside _ _ _ inside,
        Probe.chained_of_decided (recorded.skipped position mark standIn) other]
    · -- The left part decides, whatever stands in the right one.
      rw [recorded.holds_beyond _ _ _ beyond, Probe.chained_of_decided recorded.holds other]
  reached position mark standIn failure fails := by
    rcases Nat.lt_or_ge position asked.length with inside | beyond
    · rw [List.getElem?_append_left inside] at mark
      rw [recorded.holds_inside _ _ _ inside]
      exact Probe.chained_of_failed (recorded.reached position mark standIn failure fails)
    · rw [List.getElem?_append_right beyond] at mark
      cases List.eq_of_mem_replicate (List.mem_of_getElem? mark)

/-- The marks are no choice: a unit is marked exactly if the evaluation would fail with it. -/
theorem marked_iff {term : Term World}
    (recorded : Recorded scope term world verdict entries touches after asked) {position : Nat}
    (inside : position < term.units.length) :
    asked[position]? = some true ↔ ∀ standIn failure, standIn.holds scope = Probe.fail failure →
      ((term.replaceUnit position standIn).holds scope world).answer = .error failure := by
  constructor
  · exact recorded.reached position
  · intro fails
    rw [← recorded.length] at inside
    rw [List.getElem?_eq_getElem inside]
    cases mark : asked[position] with
    | true => rfl
    | false =>
        have unasked := recorded.skipped position (by rw [List.getElem?_eq_getElem inside, mark])
          (.var scope.bound)
        have failed := fails _ _ (holds_var_bound scope)
        rw [unasked] at failed
        cases failed

end Recorded

private theorem exists_recorded {term : Term World} {world after : World} {verdict : Bool}
    {entries : Trace} {touches : List Touch}
    (traced : term.trace scope .shortCircuit world = ⟨.ok (verdict, entries), touches, after⟩) :
    ∃ asked, Recorded scope term world verdict entries touches after asked := by
  induction term using skeleton_induction generalizing world after verdict entries touches with
  | unit term unit =>
      rw [trace_of_isUnit scope unit] at traced
      rcases Probe.exists_of_bind_ok traced with ⟨passed, before, between, more, ran, last, equal⟩
      cases last
      rw [equal, List.append_nil]
      exact ⟨_, .unit unit ran⟩
  | link neutral left right leftRecorded rightRecorded =>
      rw [trace_link_shortCircuit] at traced
      rcases Probe.exists_of_bind_ok traced with
        ⟨⟨passed, leftEntries⟩, before, between, more, ran, rest, equal⟩
      rcases leftRecorded ran with ⟨asked, recorded⟩
      dsimp only at rest
      split at rest
      case isTrue neutralPassed =>
          subst neutralPassed
          rcases Probe.exists_of_bind_ok rest with
            ⟨⟨_, rightEntries⟩, further, _, _, rightRan, last, appended⟩
          cases last
          rcases rightRecorded rightRan with ⟨askedNext, next⟩
          rw [equal, appended, List.append_nil]
          exact ⟨_, recorded.link next⟩
      case isFalse other =>
          cases rest
          rw [equal, List.append_nil]
          exact ⟨_, recorded.link_decided other right⟩
  | not operand operandRecorded =>
      rw [trace_not] at traced
      rcases Probe.exists_of_bind_ok traced with ⟨_, _, _, _, ran, last, equal⟩
      cases last
      rcases operandRecorded ran with ⟨asked, recorded⟩
      rw [equal, List.append_nil]
      exact ⟨asked, recorded.not⟩

end

/-! ## Exhaustive traces -/

/-- The second result is that of an exhaustive trace, and the first that of a short-circuit trace of
the same term: where the second is no failure, the verdicts are equal, and the first leaves out
entries. -/
def Shortens (short full : Except Failure (Bool × Trace)) : Prop :=
  ∀ verdict entries, full = .ok (verdict, entries) →
    ∃ part, short = .ok (verdict, part) ∧ part.Sublist entries

section

variable {leftShort leftFull rightShort rightFull : Except Failure (Bool × Trace)}

theorem Shortens.link (neutral : Bool) (first : Shortens leftShort leftFull)
    (second : Shortens rightShort rightFull) :
    Shortens (linkShort neutral leftShort rightShort) (linkFull neutral leftFull rightFull) := by
  intro verdict entries full
  rcases leftFull with failure | ⟨leftVerdict, leftEntries⟩
  · cases full
  rcases rightFull with failure | ⟨rightVerdict, rightEntries⟩
  · cases full
  rcases first leftVerdict leftEntries rfl with ⟨leftPart, rfl, leftSublist⟩
  rcases second rightVerdict rightEntries rfl with ⟨rightPart, rfl, rightSublist⟩
  cases full
  dsimp only
  by_cases undecided : leftVerdict = neutral
  · rw [if_pos undecided]
    exact ⟨_, if_pos undecided, leftSublist.append rightSublist⟩
  · rw [if_neg undecided]
    exact ⟨_, if_neg undecided, leftSublist.trans (List.sublist_append_left _ _)⟩

private theorem Shortens.not (shortens : Shortens leftShort leftFull) :
    Shortens (leftShort.map fun traced => (!traced.1, traced.2))
      (leftFull.map fun traced => (!traced.1, traced.2)) := by
  intro verdict entries full
  rcases leftFull with failure | ⟨leftVerdict, leftEntries⟩
  · cases full
  rcases shortens leftVerdict leftEntries rfl with ⟨part, rfl, sublist⟩
  cases full
  exact ⟨part, rfl, sublist⟩

end

private theorem settles_linkShort {steady : World → Prop} {left right : Probe World (Bool × Trace)}
    {leftResult rightResult : Except Failure (Bool × Trace)} (neutral : Bool)
    (leftSettles : left.Settles steady leftResult)
    (rightSettles : right.Settles steady rightResult) :
    (linkShort neutral left right).Settles steady
      (linkShort neutral leftResult rightResult) := by
  refine Probe.settles_bind leftSettles ?_
  intro leftTraced _
  split
  · exact Probe.settles_bind rightSettles fun rightTraced _ => Probe.settles_pure _
  · exact Probe.settles_pure leftTraced

private theorem settles_linkFull {steady : World → Prop} {left right : Probe World (Bool × Trace)}
    {leftResult rightResult : Except Failure (Bool × Trace)} (neutral : Bool)
    (leftSettles : left.Settles steady leftResult)
    (rightSettles : right.Settles steady rightResult) :
    (linkFull neutral left right).Settles steady (linkFull neutral leftResult rightResult) :=
  Probe.settles_bind leftSettles fun _ _ =>
    Probe.settles_bind rightSettles fun _ _ => Probe.settles_pure _

section

variable [Records World] {scope : Scope}

private theorem snd_trace_exhaustive (term : Term World) :
    Prod.snd <$> term.trace scope .exhaustive = term.units.mapM (entry scope) := by
  induction term using skeleton_induction with
  | unit term unit =>
      rw [trace_of_isUnit scope unit, units_of_isUnit unit]
      simp only [entry, List.mapM_cons, List.mapM_nil, map_eq_pure_bind, bind_assoc, pure_bind]
  | link neutral left right leftListed rightListed =>
      rw [units_link, List.mapM_append, ← leftListed, ← rightListed, trace_link_exhaustive]
      simp only [linkFull, map_eq_pure_bind, bind_assoc, pure_bind]
  | not operand listed =>
      rw [units, ← listed, trace_not]
      simp only [map_eq_pure_bind, bind_assoc, pure_bind]

private theorem settles_trace {steady : World → Prop} {term : Term World}
    (settles : ∀ unit ∈ term.units, ∃ result, (unit.holds scope).Settles steady result) :
    ∃ short full, (term.trace scope .shortCircuit).Settles steady short ∧
      (term.trace scope .exhaustive).Settles steady full ∧ Shortens short full := by
  induction term using skeleton_induction with
  | unit term unit =>
      rw [units_of_isUnit unit] at settles
      rcases settles term (List.mem_singleton_self term) with ⟨result, settles⟩
      rw [trace_of_isUnit scope unit, trace_of_isUnit scope unit]
      have traced := Probe.settles_bind settles fun passed _ =>
        Probe.settles_pure (passed, [TraceEntry.mk term.explain passed])
      exact ⟨_, _, traced, traced, fun verdict entries full => ⟨entries, full, .refl entries⟩⟩
  | link neutral left right leftSettles rightSettles =>
      rw [units_link] at settles
      rcases leftSettles fun unit member => settles unit (List.mem_append_left _ member) with
        ⟨_, _, leftShort, leftFull, leftShortens⟩
      rcases rightSettles fun unit member => settles unit (List.mem_append_right _ member) with
        ⟨_, _, rightShort, rightFull, rightShortens⟩
      rw [trace_link_shortCircuit, trace_link_exhaustive]
      exact ⟨_, _, settles_linkShort neutral leftShort rightShort,
        settles_linkFull neutral leftFull rightFull, leftShortens.link neutral rightShortens⟩
  | not operand operandSettles =>
      rcases operandSettles settles with ⟨_, _, short, full, shortens⟩
      rw [trace_not, trace_not, ← map_eq_pure_bind, ← map_eq_pure_bind]
      exact ⟨_, _, Probe.settles_map _ short, Probe.settles_map _ full, shortens.not⟩

theorem settles_entries {steady : World → Prop} {units : List (Term World)}
    (settles : ∀ unit ∈ units, ∃ result, (unit.holds scope).Settles steady result)
    {world : World} (still : steady world) :
    (units.mapM (entry scope)).Settles steady
      (units.mapM fun unit =>
        (unit.holds scope world).answer.map (TraceEntry.mk unit.explain)) := by
  refine Probe.settles_mapM ?_
  intro unit member
  rcases settles unit member with ⟨result, settled⟩
  rw [entry_eq_map, (settled world still).1]
  exact Probe.settles_map (TraceEntry.mk unit.explain) settled

private theorem supports_of_mem_units {judgement : Judgement World} {known : Value → Prop}
    {term unit : Term World} (supports : judgement.Supports known scope term)
    (member : unit ∈ term.units) : judgement.Supports known scope unit := by
  induction term using skeleton_induction with
  | unit term isUnit =>
      rw [units_of_isUnit isUnit] at member
      rw [List.mem_singleton.mp member]
      exact supports
  | link neutral left right leftSupports rightSupports =>
      rw [units_link] at member
      rcases List.mem_append.mp member with member | member
      · exact leftSupports (supports.part (by simp)) member
      · exact rightSupports (supports.part (by simp)) member
  | not operand operandSupports =>
      exact operandSupports (supports.part (List.mem_singleton_self operand)) member

end

end Term

namespace Predicate

variable [Records World]

/-- A short-circuit trace is plain evaluation with a record of it: the same verdict or failure after
the same touches, and where there is a verdict, one entry for each unit that the evaluation asked,
in the order in which they were asked. -/
theorem short_circuit_trace_is_evaluation (predicate : Predicate World) (entity : Record) :
    predicate.evaluate entity = Prod.fst <$> predicate.trace .shortCircuit entity ∧
    ∀ world verdict entries touches after,
      predicate.trace .shortCircuit entity world = ⟨.ok (verdict, entries), touches, after⟩ →
      ∃ asked, Term.Recorded ⟨predicate.bound, entity⟩ predicate.body world verdict entries touches
        after asked := by
  constructor
  · exact (Term.fst_trace_shortCircuit predicate.body).symm
  · intro world verdict entries touches after traced
    exact Term.exists_recorded traced

section

open Sample

def setOrUnset : Predicate Gallery :=
  ⟨⟨0, "x"⟩, .or (Criterion.flag 0 "a").body (.not (Criterion.flag 0 "b").body)⟩

theorem setOrUnset_recorded :
    ∃ asked, Term.Recorded ⟨⟨0, "x"⟩, ⟨0⟩⟩ setOrUnset.body Criterion.twoFlags true
      [⟨(Criterion.flag 0 "a").body.explain, true⟩] [.member ⟨0⟩ "a"] Criterion.twoFlags asked :=
  (short_circuit_trace_is_evaluation setOrUnset ⟨0⟩).2 Criterion.twoFlags true _ _ _ rfl

end

/-- An exhaustive trace asks every unit in turn and notes its own verdict, or it fails as the first
unit that fails, and none behind that is run.

Then, on an entity of which each unit can be asked again: the entries are what the units give each
by itself, and the verdict is that of plain evaluation and of a short-circuit trace, whose entries
are some of these in the same order. Units can be asked again if they leave the world as it is, or
if reads and tests can be repeated. -/
theorem exhaustive_trace_lists_units (predicate : Predicate World) (entity : Record) :
    (∀ world, Probe.InTurn (Term.entry ⟨predicate.bound, entity⟩) predicate.body.units world
      ((Prod.snd <$> predicate.trace .exhaustive entity) world)) ∧
    (∀ steady : World → Prop,
      (∀ unit ∈ predicate.body.units, ∃ result,
        (unit.holds ⟨predicate.bound, entity⟩).Settles steady result) →
      ∀ world, steady world →
        (predicate.trace .exhaustive entity world).answer.map Prod.snd =
          (predicate.body.units.mapM fun unit =>
            (unit.holds ⟨predicate.bound, entity⟩ world).answer.map
              (TraceEntry.mk unit.explain)) ∧
        ∀ verdict entries,
          (predicate.trace .exhaustive entity world).answer = .ok (verdict, entries) →
          ∀ again, steady again →
            (predicate.evaluate entity again).answer = .ok verdict ∧
            ∃ part, (predicate.trace .shortCircuit entity again).answer = .ok (verdict, part) ∧
              part.Sublist entries) ∧
    (∀ world,
      (∀ unit ∈ predicate.body.units,
        (unit.holds ⟨predicate.bound, entity⟩ world).world = world) →
      ∀ unit ∈ predicate.body.units, ∃ result,
        (unit.holds ⟨predicate.bound, entity⟩).Settles (· = world) result) ∧
    (∀ steady known, predicate.body.Repeatable steady known entity →
      ∀ unit ∈ predicate.body.units, ∃ result,
        (unit.holds ⟨predicate.bound, entity⟩).Settles steady result) := by
  refine ⟨?_, ?_, ?_, ?_⟩
  · intro world
    rw [trace, Term.snd_trace_exhaustive]
    exact Probe.inTurn_mapM _ _ world
  · intro steady settles world still
    constructor
    · have asked := (Term.settles_entries settles still world still).1
      rw [← Term.snd_trace_exhaustive, Probe.map_run] at asked
      exact asked
    · intro verdict entries traced again stillAgain
      rcases Term.settles_trace settles with ⟨short, full, shortSettles, fullSettles, shortens⟩
      have answered : full = .ok (verdict, entries) := (fullSettles world still).1.symm.trans traced
      rcases shortens verdict entries answered with ⟨part, rfl, sublist⟩
      have shortAnswer := (shortSettles again stillAgain).1
      constructor
      · rw [evaluate, ← Term.fst_trace_shortCircuit, Probe.map_run, shortAnswer]
        rfl
      · exact ⟨part, shortAnswer, sublist⟩
  · intro world unchanged unit member
    exact ⟨_, Probe.settles_of_unchanged (unchanged unit member)⟩
  · intro steady known repeatable unit member
    have supports := Term.supports_of_mem_units (repeatable.supports predicate.bound) member
    rcases Judgement.passes_holds supports with ⟨result, settles, _⟩
    exact ⟨result, settles⟩

section

open Sample

theorem setOrUnset_listed :
    (setOrUnset.evaluate ⟨0⟩ Criterion.twoFlags).answer = .ok true ∧
    ∃ part, (setOrUnset.trace .shortCircuit ⟨0⟩ Criterion.twoFlags).answer = .ok (true, part) ∧
      part.Sublist [⟨(Criterion.flag 0 "a").body.explain, true⟩,
        ⟨(Criterion.flag 0 "b").body.explain, false⟩] := by
  rcases exhaustive_trace_lists_units setOrUnset ⟨0⟩ with ⟨_, laws, unchanged, _⟩
  have settles := unchanged Criterion.twoFlags
    (List.forall_mem_cons.mpr ⟨rfl, List.forall_mem_singleton.mpr rfl⟩)
  exact (laws _ settles Criterion.twoFlags rfl).2 true _ rfl Criterion.twoFlags rfl

def shows (comparison : Comparison) (verdict : Bool) : Term Clock :=
  .compare (.member (.var ⟨0, "x"⟩) "on") comparison (.bool verdict)

def onAndOff : Predicate Clock :=
  ⟨⟨0, "x"⟩, .and (.or (shows .eq true) (shows .ne false)) (shows .eq false)⟩

/-- The unit that evaluation passes over reads the clock, and with that the verdict of the next one
changes. -/
theorem traces_differ_where_reads_change :
    (onAndOff.trace .exhaustive ⟨0⟩ ⟨0⟩).answer =
        .ok (false, [⟨(shows .eq true).explain, true⟩, ⟨(shows .ne false).explain, false⟩,
          ⟨(shows .eq false).explain, false⟩]) ∧
      ((shows .ne false).holds ⟨⟨0, "x"⟩, ⟨0⟩⟩ ⟨0⟩).answer = .ok true ∧
      (onAndOff.evaluate ⟨0⟩ ⟨0⟩).answer = .ok true ∧
      ∃ part, (onAndOff.trace .shortCircuit ⟨0⟩ ⟨0⟩).answer = .ok (true, part) ∧
        ¬ part.Sublist [⟨(shows .eq true).explain, true⟩, ⟨(shows .ne false).explain, false⟩,
          ⟨(shows .eq false).explain, false⟩] := by
  refine ⟨rfl, rfl, rfl, [⟨(shows .eq true).explain, true⟩, ⟨(shows .eq false).explain, true⟩],
    rfl, ?_⟩
  intro sublist
  have passed : [true, true].Sublist [true, false, false] := sublist.map TraceEntry.passed
  exact absurd passed (by decide)

end

end Predicate

end Criteria

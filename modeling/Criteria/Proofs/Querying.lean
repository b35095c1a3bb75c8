import Criteria.Proofs.Counting
import Criteria.Query
import Mathlib.Data.List.Perm.Subperm

/-!
Queries answer what evaluation answers.

A query runs a closure and not the criterion, and its loops collect or count entities where
evaluation gives verdicts. What they have in common is the run of the criterion over the entities in
turn: the loop of `filter` is that run with the verdicts turned into entities at the end, and the
loop of `count` is that run with the verdicts counted. The loop of `parallelFilter` goes on after a
failure, which costs further runs and does not change the answer.

Workers may share the entities among them, in any order and leaving some out after a failure. In a
world in which the criterion can be asked again, the order does not matter.
-/

namespace Criteria

variable {World : Type}

namespace Probe

variable {Item Answer : Type} {run : Item → Probe World Answer} {steady : World → Prop}

private theorem observed_mapM (view : Failure → Failure) (run : Item → Probe World Answer)
    (items : List Item) :
    (items.mapM run).observed view = items.mapM fun item => (run item).observed view := by
  induction items with
  | nil => rfl
  | cons item items induction =>
      simp only [List.mapM_cons, observed_bind, observed_pure, induction]

private theorem ofExcept_run (result : Except Failure Answer) (world : World) :
    ofExcept result world = ⟨result, [], world⟩ := by
  cases result <;> rfl

/-! ## Attempts -/

theorem attempt_of_run {probe : Probe World Answer} {world after : World}
    {answer : Except Failure Answer} {touches : List Touch}
    (ran : probe world = ⟨answer, touches, after⟩) :
    probe.attempt world = ⟨.ok answer, touches, after⟩ := by
  rw [attempt, ran]

private theorem Answered.attempt {items : List Item} {world after : World} {answers : List Answer}
    {touches : List Touch} (ran : Answered run items world answers touches after) :
    Answered (fun item => (run item).attempt) items world (answers.map .ok) touches after := by
  induction ran with
  | nil => exact .nil
  | cons ran _ induction => exact .cons (attempt_of_run ran) induction

private theorem exists_answered_attempt (run : Item → Probe World Answer) (items : List Item)
    (world : World) :
    ∃ results touches after,
      Answered (fun item => (run item).attempt) items world results touches after := by
  induction items generalizing world with
  | nil => exact ⟨[], [], world, .nil⟩
  | cons item items induction =>
      rcases induction (run item world).world with ⟨results, touches, after, rest⟩
      exact ⟨_, _, _, .cons rfl rest⟩

/-! ## Settled items -/

private theorem settles_attempt {probe : Probe World Answer} {result : Except Failure Answer}
    (settles : probe.Settles steady result) : probe.attempt.Settles steady (.ok result) := by
  intro world still
  rcases settles world still with ⟨equal, stays⟩
  exact ⟨congrArg Except.ok equal, stays⟩

theorem Repeats.settles_observed {probe : Probe World Bool} {world : World}
    (repeats : probe.Repeats steady) (still : steady world) :
    (probe.observed Failure.unnamed).Settles steady
      (probe.observed Failure.unnamed world).answer := by
  rcases repeats with ⟨result, settles⟩
  rwa [(settles world still).1]

theorem Answered.results {items : List Item} {world after : World} {answers : List Answer}
    {touches : List Touch} {own : Item → Except Failure Answer}
    (ran : Answered run items world answers touches after)
    (settles : ∀ item ∈ items, (run item).Settles steady (own item)) (still : steady world) :
    items.mapM own = .ok answers := by
  rw [← (settles_mapM settles world still).1, ran.mapM]

private theorem Answered.eq_map {items : List Item} {world after : World} {answers : List Answer}
    {touches : List Touch} {own : Item → Answer}
    (ran : Answered run items world answers touches after)
    (settles : ∀ item ∈ items, (run item).Settles steady (.ok (own item))) (still : steady world) :
    answers = items.map own := by
  have pures : items.mapM (fun item => (.ok (own item) : Except Failure Answer)) =
    .ok (items.map own) := List.mapM_pure
  exact Except.ok.inj ((ran.results settles still).symm.trans pures)

private theorem exists_ok_of_mapM {own : Item → Except Failure Answer} {items : List Item}
    {answers : List Answer} (results : items.mapM own = .ok answers) :
    ∀ item ∈ items, ∃ answer, own item = .ok answer := by
  induction items generalizing answers with
  | nil => nofun
  | cons item items induction =>
      rw [List.mapM_cons] at results
      cases first : own item with
      | error failure =>
          rw [first] at results
          cases results
      | ok answer =>
          cases rest : items.mapM own with
          | error failure =>
              rw [first, rest] at results
              cases results
          | ok others => exact List.forall_mem_cons.mpr ⟨⟨answer, first⟩, induction rest⟩

private theorem mapM_of_first_failure {own : Item → Except Failure Answer}
    {passed behind : List Item} {failing : Item} {failure : Failure}
    (passes : ∀ item ∈ passed, ∃ answer, own item = .ok answer)
    (fails : own failing = .error failure) :
    (passed ++ failing :: behind).mapM own = .error failure := by
  induction passed with
  | nil =>
      rw [List.nil_append, List.mapM_cons, fails]
      rfl
  | cons item passed induction =>
      rcases List.forall_mem_cons.mp passes with ⟨⟨answer, first⟩, others⟩
      rw [List.cons_append, List.mapM_cons, first, induction others]
      rfl

end Probe

namespace Query

/-! ## Choosing by verdicts -/

def accepted (entities : List Record) (verdicts : List Bool) : List Record :=
  ((entities.zip verdicts).filter (·.2)).map (·.1)

theorem accepted_cons (entity : Record) (entities : List Record) (verdict : Bool)
    (verdicts : List Bool) :
    accepted (entity :: entities) (verdict :: verdicts) =
      if verdict then entity :: accepted entities verdicts else accepted entities verdicts := by
  cases verdict <;> rfl

private theorem accepted_map (test : Record → Bool) (entities : List Record) :
    accepted entities (entities.map test) = entities.filter test := by
  induction entities with
  | nil => rfl
  | cons entity entities induction =>
      rw [List.map_cons, accepted_cons, induction, List.filter_cons]

private theorem eq_map_of_zip {entities : List Record} {verdicts : List Bool} {test : Record → Bool}
    (lengths : verdicts.length = entities.length)
    (each : ∀ place ∈ entities.zip verdicts, place.2 = test place.1) :
    verdicts = entities.map test := by
  calc verdicts
      = (entities.zip verdicts).map Prod.snd := (List.map_snd_zip (Nat.le_of_eq lengths)).symm
    _ = (entities.zip verdicts).map (test ∘ Prod.fst) := List.map_congr_left each
    _ = entities.map test := by
        rw [← List.map_map, List.map_fst_zip (Nat.le_of_eq lengths.symm)]

/-! ## The loops -/

variable {run : Record → Probe World Bool}

theorem keep_eq (run : Record → Probe World Bool) (entities : List Record) :
    keep run entities = accepted entities <$> entities.mapM run := by
  induction entities with
  | nil => rfl
  | cons entity entities induction =>
      rw [Probe.mapM_cons_eq, keep, map_bind]
      congr 1
      funext verdict
      rw [Functor.map_map, induction]
      cases verdict <;>
        simp only [accepted_cons, map_eq_pure_bind, bind_assoc, pure_bind, Bool.false_eq_true,
          if_true, if_false]

private theorem tally_eq (run : Record → Probe World Bool) (entities : List Record) (count : Nat) :
    tally run entities count = (count + ·.length) <$> keep run entities := by
  induction entities generalizing count with
  | nil => rfl
  | cons entity entities induction =>
      rw [tally, keep, map_bind]
      congr 1
      funext verdict
      cases verdict
      · simp [induction]
      · simp [induction, Nat.add_comm, Nat.add_left_comm]

private theorem attemptAll_of_answered {entities : List Record} {world after : World}
    {results : List (Except Failure Bool)} {touches : List Touch}
    (ran : Probe.Answered (fun entity => (run entity).attempt) entities world results touches
      after) :
    attemptAll run entities world = ⟨.ok (entities.zip results), touches, after⟩ := by
  induction ran with
  | nil => rfl
  | cons ran _ induction =>
      rw [attemptAll, Probe.bind_of_ok ran, Probe.bind_of_ok induction]
      change Outcome.mk _ (_ ++ (_ ++ [])) _ = _
      rw [List.append_nil]
      rfl

private theorem gather_of_answered {entities : List Record} {world after : World}
    {results : List (Except Failure Bool)} {touches : List Touch}
    (ran : Probe.Answered (fun entity => (run entity).attempt) entities world results touches
      after) :
    gather run entities world = ⟨collect (entities.zip results), touches, after⟩ := by
  rw [gather, Probe.bind_of_ok (attemptAll_of_answered ran), Probe.ofExcept_run, List.append_nil]

private theorem collect_append (passed : List Record) (verdicts : List Bool)
    (rest : List (Record × Except Failure Bool)) :
    collect (passed.zip (verdicts.map .ok) ++ rest) =
      (collect rest).map (accepted passed verdicts ++ ·) := by
  have unchanged : (collect rest).map ([] ++ ·) = collect rest := by
    cases collect rest <;> rfl
  induction passed generalizing verdicts with
  | nil => exact unchanged.symm
  | cons entity passed induction =>
      cases verdicts with
      | nil => exact unchanged.symm
      | cons verdict verdicts =>
          rw [List.map_cons, List.zip_cons_cons, List.cons_append, collect, induction,
            accepted_cons]
          cases collect rest with
          | error failure => rfl
          | ok others => cases verdict <;> rfl

/-! ## Shared runs -/

/-- What workers may come to that share the entities among them and put their answers together in
the order of the entities.

They run the criterion in an order of their own. If every run answers, the accepted entities are
chosen. Once a run has failed they may leave out what they have not begun, and they tell the failure
of any run. -/
inductive Shared (run : Record → Probe World Bool) (entities : List Record) (world : World) :
    Outcome World (List Record) → Prop where
  | answered {verdicts : List Bool} {places : List (Record × Bool)} {touches : List Touch}
      {after : World} (lengths : verdicts.length = entities.length)
      (order : places.Perm (entities.zip verdicts))
      (ran : Probe.Answered (fun place => run place.1) places world (places.map (·.2)) touches
        after) :
      Shared run entities world ⟨.ok (accepted entities verdicts), touches, after⟩
  | failed {part : List Record} {results : List (Except Failure Bool)} {touches : List Touch}
      {after : World} {failure : Failure} (order : part.Subperm entities)
      (ran : Probe.Answered (fun entity => (run entity).attempt) part world results touches after)
      (member : .error failure ∈ results) :
      Shared run entities world ⟨.error failure, touches, after⟩

/-- Workers collect in this way if they do no more than share the entities. -/
def Collecting.IsShared (collecting : Collecting World) : Prop :=
  ∀ run entities world, Shared run entities world (collecting run entities world)

private theorem answered_zip {entities : List Record} {world after : World} {verdicts : List Bool}
    {touches : List Touch} (ran : Probe.Answered run entities world verdicts touches after) :
    Probe.Answered (fun place => run place.1) (entities.zip verdicts) world
      ((entities.zip verdicts).map (·.2)) touches after := by
  induction ran with
  | nil => exact .nil
  | cons ran _ induction => exact .cons ran induction

/-- The loop that goes on after a failure is one of the ways to share the entities. It answers what
the loop answers that stops, and where nothing fails it does the same. -/
theorem gather_run (run : Record → Probe World Bool) (entities : List Record) (world : World) :
    Shared run entities world (gather run entities world) ∧
      (gather run entities world).answer = (keep run entities world).answer ∧
      ∀ chosen, (keep run entities world).answer = .ok chosen →
        gather run entities world = keep run entities world := by
  have inTurn := Probe.inTurn_mapM run entities world
  rw [keep_eq, Probe.map_run]
  generalize entities.mapM run world = outcome at inTurn
  cases inTurn with
  | @answered verdicts touches after ran =>
      have gathered : gather run entities world =
          ⟨.ok (accepted entities verdicts), touches, after⟩ := by
        have collected := collect_append entities verdicts []
        rw [List.append_nil] at collected
        rw [gather_of_answered ran.attempt, collected, collect]
        change Outcome.mk (.ok (_ ++ [])) _ _ = _
        rw [List.append_nil]
      rw [gathered]
      exact ⟨.answered ran.length_eq .rfl (answered_zip ran), rfl, fun _ _ => rfl⟩
  | @failed passed behind failing verdicts touches more between after failure split ran fails =>
      rcases Probe.exists_answered_attempt run behind after with ⟨results, last, later, rest⟩
      -- What stands behind the failure is run as well, and collecting ends at the failure.
      have attempted := ran.attempt.append (.cons (Probe.attempt_of_run fails) rest)
      have lengths : passed.length = (verdicts.map (@Except.ok Failure Bool)).length := by
        rw [List.length_map, ran.length_eq]
      have gathered : gather run entities world =
          ⟨.error failure, touches ++ (more ++ last), later⟩ := by
        rw [split, gather_of_answered attempted, List.zip_append lengths, List.zip_cons_cons,
          collect_append]
        rfl
      rw [gathered]
      refine ⟨?_, rfl, nofun⟩
      rw [split]
      exact .failed (List.Subperm.refl _) attempted
        (List.mem_append_right _ List.mem_cons_self)

theorem gather_isShared : (gather : Collecting World).IsShared :=
  fun run entities world => (gather_run run entities world).1

section

variable {steady : World → Prop} {entities : List Record} {world : World}
  {outcome : Outcome World (List Record)}

theorem Shared.answer_eq {test : Record → Bool} (shared : Shared run entities world outcome)
    (settles : ∀ entity ∈ entities, (run entity).Settles steady (.ok (test entity)))
    (still : steady world) : outcome.answer = .ok (entities.filter test) := by
  cases shared with
  | @answered verdicts places touches after lengths order ran =>
      have own : places.map (·.2) = places.map fun place => test place.1 :=
        ran.eq_map (fun place member =>
          settles place.1 (List.of_mem_zip (order.mem_iff.mp member)).1) still
      have each : ∀ place ∈ entities.zip verdicts, place.2 = test place.1 :=
        fun place member => List.map_inj_left.mp own place (order.mem_iff.mpr member)
      rw [eq_map_of_zip lengths each, accepted_map]
  | @failed part results touches after failure order ran member =>
      have own := ran.eq_map (fun entity found =>
        Probe.settles_attempt (settles entity (order.subset found))) still
      rw [own] at member
      rcases List.mem_map.mp member with ⟨entity, _, equal⟩
      cases equal

theorem Shared.exists_failure (shared : Shared run entities world outcome)
    (repeats : ∀ entity ∈ entities, (run entity).Repeats steady) (still : steady world)
    {failing : Record} (member : failing ∈ entities)
    (fails : ∀ verdict, (run failing world).answer ≠ .ok verdict) :
    ∃ reported, outcome.answer = .error reported := by
  cases shared with
  | @answered verdicts places touches after lengths order ran =>
      have results := (ran.observed Failure.unnamed).results (fun place found =>
        (repeats place.1 (List.of_mem_zip (order.mem_iff.mp found)).1).settles_observed still) still
      rw [← List.map_fst_zip (Nat.le_of_eq lengths.symm)] at member
      rcases List.mem_map.mp member with ⟨place, inside, rfl⟩
      rcases Probe.exists_ok_of_mapM results place (order.mem_iff.mpr inside) with
        ⟨verdict, observed⟩
      exact absurd ((Probe.observed_answer_eq_ok_iff Failure.unnamed).mp observed) (fails verdict)
  | failed => exact ⟨_, rfl⟩

end

/-! ## Queries -/

section

variable [Records World] {criterion : Criterion World} {supply : Supply} {entities : List Record}
  {world : World}

omit [Records World] in
theorem answer_prepare {Answer : Type} (criterion : Criterion World) (rest : Probe World Answer)
    (world : World) : ((do prepare criterion; rest) world).answer = (rest world).answer := by
  unfold prepare
  split
  · rw [Probe.touch_bind]
  · rfl

omit [Records World] in
theorem observed_prepare {Answer : Type} (criterion : Criterion World)
    (rest : Probe World Answer) :
    (do prepare criterion; rest).observed Failure.unnamed = rest.observed Failure.unnamed := by
  rw [Probe.observed_bind]
  unfold prepare
  split <;> rfl

theorem compile_agrees (reachable : criterion.Reachable supply) (fits : criterion.CountsFit)
    (entity : Record) :
    (criterion.predicate.compile entity).Agrees (criterion.evaluate entity) := by
  rw [Predicate.compile_eq_evaluate]
  exact (reachable.sound.evaluate_agrees fits entity).symm

private theorem observed_filter (reachable : criterion.Reachable supply)
    (fits : criterion.CountsFit) (entities : List Record) :
    (filter criterion entities).observed Failure.unnamed =
      accepted entities <$> entities.mapM criterion.observedOn := by
  have same : (fun entity => (criterion.predicate.compile entity).observed Failure.unnamed) =
      criterion.observedOn := by
    funext entity
    exact compile_agrees reachable fits entity
  rw [filter, observed_prepare, keep_eq, Probe.observed_map,
    Probe.observed_mapM, same]

theorem count_eq (criterion : Criterion World) (entities : List Record) :
    count criterion entities = List.length <$> filter criterion entities := by
  rw [count, filter, map_bind, tally_eq]
  simp only [Nat.zero_add]

theorem answer_parallelFilterBy (collecting : Collecting World) (criterion : Criterion World)
    (entities : List Record) (world : World) :
    (parallelFilterBy collecting criterion entities world).answer =
      (collecting criterion.predicate.compile entities world).answer :=
  answer_prepare criterion _ world

/-- The parallel query is one of the ways to share the entities. It answers what the other one
answers, and where nothing fails it does what the other one does. -/
theorem parallelFilter_run (criterion : Criterion World) (entities : List Record) (world : World) :
    (∃ outcome, Shared criterion.predicate.compile entities world outcome ∧
      (parallelFilter criterion entities world).answer = outcome.answer) ∧
    (parallelFilter criterion entities world).answer = (filter criterion entities world).answer ∧
    ∀ chosen, (filter criterion entities world).answer = .ok chosen →
      (parallelFilter criterion entities).observed Failure.unnamed world =
        (filter criterion entities).observed Failure.unnamed world := by
  rcases gather_run criterion.predicate.compile entities world with ⟨shared, sameAnswer, same⟩
  have gathers : parallelFilter criterion entities =
    (do prepare criterion; gather criterion.predicate.compile entities) := rfl
  rw [gathers, filter, answer_prepare, answer_prepare, observed_prepare, observed_prepare]
  refine ⟨⟨_, shared, rfl⟩, sameAnswer, ?_⟩
  intro chosen answered
  simp only [Probe.observed, same chosen answered]

theorem settles_compile {steady : World → Prop} {entity : Record}
    (reachable : criterion.Reachable supply) (fits : criterion.CountsFit)
    (repeats : (criterion.evaluate entity).Repeats steady) (still : steady world)
    (answered : ∃ verdict, criterion.answerOn entity world = .ok verdict) :
    (criterion.predicate.compile entity).Settles steady (.ok (criterion.holdsOn entity world)) := by
  rcases answered with ⟨verdict, answered⟩
  have agrees := compile_agrees reachable fits entity
  have observed : ((criterion.predicate.compile entity).observed Failure.unnamed world).answer =
      .ok verdict := by
    rw [agrees]
    exact (Probe.observed_answer_eq_ok_iff Failure.unnamed).mpr answered
  rw [Criterion.holdsOn_of_answerOn answered]
  exact (agrees.repeats repeats).settles still
    ((Probe.observed_answer_eq_ok_iff Failure.unnamed).mp observed)

/-! ## What queries come to -/

/-- The queries in a world, told by the verdicts that the criterion gives on the entities in turn,
or by its first failure. -/
structure RunInTurn (criterion : Criterion World) (entities : List Record) (world : World)
    (outcome : Outcome World (List Bool)) : Prop where
  inTurn : Probe.InTurn criterion.observedOn entities world outcome
  filtered : (filter criterion entities).observed Failure.unnamed world =
    { outcome with answer := outcome.answer.map (accepted entities) }
  counted : (count criterion entities).observed Failure.unnamed world =
    { outcome with
      answer := outcome.answer.map fun verdicts => (accepted entities verdicts).length }
  parallel : ∀ verdicts, outcome.answer = .ok verdicts →
    (parallelFilter criterion entities).observed Failure.unnamed world =
      { outcome with answer := .ok (accepted entities verdicts) }
  parallelFails : ∀ failure, outcome.answer = .error failure →
    ∃ reported, (parallelFilter criterion entities world).answer = .error reported

/-- Every query gives these entities or their number, however workers collect them. -/
structure Find (criterion : Criterion World) (entities : List Record) (world : World)
    (chosen : List Record) : Prop where
  filtered : (filter criterion entities world).answer = .ok chosen
  counted : (count criterion entities world).answer = .ok chosen.length
  parallel : (parallelFilter criterion entities world).answer = .ok chosen
  shared : ∀ outcome, Shared criterion.predicate.compile entities world outcome →
    outcome.answer = .ok chosen
  collected : ∀ collecting : Collecting World, collecting.IsShared →
    (parallelFilterBy collecting criterion entities world).answer = .ok chosen

/-- Every query fails, and those that run the entities in turn fail in this way. -/
structure Fail (criterion : Criterion World) (entities : List Record) (world : World)
    (failure : Failure) : Prop where
  filtered : ((filter criterion entities).observed Failure.unnamed world).answer = .error failure
  counted : ((count criterion entities).observed Failure.unnamed world).answer = .error failure
  parallel : ∃ reported, (parallelFilter criterion entities world).answer = .error reported
  shared : ∀ outcome, Shared criterion.predicate.compile entities world outcome →
    ∃ reported, outcome.answer = .error reported
  collected : ∀ collecting : Collecting World, collecting.IsShared →
    ∃ reported, (parallelFilterBy collecting criterion entities world).answer = .error reported

theorem runInTurn (reachable : criterion.Reachable supply) (fits : criterion.CountsFit)
    (entities : List Record) (world : World) :
    RunInTurn criterion entities world (entities.mapM criterion.observedOn world) := by
  rcases parallelFilter_run criterion entities world with ⟨_, sameAnswer, same⟩
  have filtered : (filter criterion entities).observed Failure.unnamed world = _ :=
    (congrFun (observed_filter reachable fits entities) world).trans (Probe.map_run _ _ world)
  refine ⟨Probe.inTurn_mapM criterion.observedOn entities world, filtered, ?_, ?_, ?_⟩
  · rw [count_eq, Probe.observed_map, Probe.map_run, filtered]
    cases (entities.mapM criterion.observedOn world).answer <;> rfl
  · intro verdicts answered
    rw [answered] at filtered
    have chosen : (filter criterion entities world).answer = .ok (accepted entities verdicts) :=
      (Probe.observed_answer_eq_ok_iff Failure.unnamed).mp (congrArg Outcome.answer filtered)
    rw [same _ chosen, filtered]
    rfl
  · intro failure failed
    rw [failed] at filtered
    cases parallel : (parallelFilter criterion entities world).answer with
    | error reported => exact ⟨reported, rfl⟩
    | ok chosen =>
        have observed := (Probe.observed_answer_eq_ok_iff Failure.unnamed).mpr
          (sameAnswer.symm.trans parallel)
        rw [filtered] at observed
        cases observed

section

variable {steady : World → Prop} (reachable : criterion.Reachable supply)
  (fits : criterion.CountsFit)
  (repeats : ∀ entity ∈ entities, (criterion.evaluate entity).Repeats steady)
  (still : steady world)

include reachable fits repeats still

private theorem find_of_answers
    (answers : ∀ entity ∈ entities, ∃ verdict, criterion.answerOn entity world = .ok verdict) :
    Find criterion entities world (entities.filter (criterion.holdsOn · world)) := by
  rcases parallelFilter_run criterion entities world with ⟨_, sameAnswer, _⟩
  have settles : ∀ entity ∈ entities, (criterion.predicate.compile entity).Settles steady
      (.ok (criterion.holdsOn entity world)) := fun entity member =>
    settles_compile reachable fits (repeats entity member) still (answers entity member)
  have collected : ∀ collecting : Collecting World, collecting.IsShared →
      (parallelFilterBy collecting criterion entities world).answer =
        .ok (entities.filter (criterion.holdsOn · world)) := by
    intro collecting isShared
    rw [answer_parallelFilterBy]
    exact (isShared _ entities world).answer_eq settles still
  have parallel := collected gather gather_isShared
  have filtered := sameAnswer.symm.trans parallel
  refine ⟨filtered, ?_, parallel, fun _ shared => shared.answer_eq settles still, collected⟩
  rw [count_eq, Probe.map_run, filtered]
  rfl

private theorem fail_of_first_failure {passed behind : List Record} {failing : Record}
    {failure : Failure} (split : entities = passed ++ failing :: behind)
    (passes : ∀ entity ∈ passed, ∃ verdict, criterion.answerOn entity world = .ok verdict)
    (fails : (criterion.observedOn failing world).answer = .error failure) :
    Fail criterion entities world failure := by
  have runs := runInTurn reachable fits entities world
  have failed : (entities.mapM criterion.observedOn world).answer = .error failure := by
    have settles := Probe.settles_mapM fun entity member =>
      (repeats entity member).settles_observed still
    refine (settles world still).1.trans ?_
    rw [split]
    refine Probe.mapM_of_first_failure ?_ fails
    intro entity member
    rcases passes entity member with ⟨verdict, answered⟩
    exact ⟨verdict, (Probe.observed_answer_eq_ok_iff Failure.unnamed).mpr answered⟩
  have shared : ∀ outcome, Shared criterion.predicate.compile entities world outcome →
      ∃ reported, outcome.answer = .error reported := by
    intro outcome shared
    have inside : failing ∈ entities := by
      rw [split]
      exact List.mem_append_right passed List.mem_cons_self
    refine shared.exists_failure (fun entity member =>
      (compile_agrees reachable fits entity).repeats (repeats entity member)) still inside ?_
    intro verdict answered
    have observed := (Probe.observed_answer_eq_ok_iff Failure.unnamed).mpr answered
    rw [compile_agrees reachable fits failing] at observed
    exact nomatch fails.symm.trans observed
  refine ⟨?_, ?_, runs.parallelFails failure failed, shared, ?_⟩
  · rw [runs.filtered, failed]
    rfl
  · rw [runs.counted, failed]
    rfl
  · intro collecting isShared
    rw [answer_parallelFilterBy]
    exact shared _ (isShared _ entities world)

end

/-- Queries over any list of entities.

The criterion is evaluated on the entities in turn up to the first on which it fails. If it fails on
none, `filter` gives those that it accepts, in their order and each as often as it stands there, and
`parallelFilter` does the same. If it fails, `filter` fails with it, no entity behind is touched,
and `parallelFilter` fails as well. `count` does what `filter` does and gives the number.

In a steady world the verdicts are those that evaluation alone gives, and it makes no difference how
workers collect the entities, as long as they share them. The loop of `parallelFilter` is one way to
do so. What can be repeated leaves a world steady. -/
theorem queries_agree_with_evaluation (reachable : criterion.Reachable supply)
    (fits : criterion.CountsFit) (entities : List Record) :
    (∀ world, ∃ outcome, RunInTurn criterion entities world outcome) ∧
    (∀ steady, (∀ entity ∈ entities, (criterion.evaluate entity).Repeats steady) →
      ∀ world, steady world →
        ((∀ entity ∈ entities, ∃ verdict, criterion.answerOn entity world = .ok verdict) →
          Find criterion entities world (entities.filter (criterion.holdsOn · world))) ∧
        ∀ passed failing behind failure, entities = passed ++ failing :: behind →
          (∀ entity ∈ passed, ∃ verdict, criterion.answerOn entity world = .ok verdict) →
          (criterion.observedOn failing world).answer = .error failure →
          Fail criterion entities world failure) ∧
    (gather : Collecting World).IsShared ∧
    (∀ world, ∃ outcome, Shared criterion.predicate.compile entities world outcome ∧
      (parallelFilter criterion entities world).answer = outcome.answer) ∧
    ∀ (steady : World → Prop) (known : Value → Prop) (entity : Record),
      criterion.body.Repeatable steady known entity →
        (criterion.evaluate entity).Repeats steady := by
  refine ⟨fun world => ⟨_, runInTurn reachable fits entities world⟩, ?_, gather_isShared,
    fun world => (parallelFilter_run criterion entities world).1, ?_⟩
  · intro steady repeats world still
    exact ⟨find_of_answers reachable fits repeats still, fun _ _ _ _ split passes fails =>
      fail_of_first_failure reachable fits repeats still split passes fails⟩
  · intro steady known entity repeatable
    exact reachable.sound.repeats fits repeatable

end

section

open Sample

def mixedFlags : Gallery :=
  ⟨#[.flags ⟨true, false⟩, .flags ⟨true, true⟩]⟩

/-- The first record is asked for twice and found twice, and a record that does not answer fails the
query. -/
theorem oneFlag_queried :
    Find Criterion.oneFlag [⟨0⟩, ⟨1⟩, ⟨0⟩] mixedFlags [⟨0⟩, ⟨0⟩] ∧
      (parallelFilterBy gather Criterion.oneFlag [⟨0⟩, ⟨1⟩, ⟨0⟩] mixedFlags).answer =
        .ok [⟨0⟩, ⟨0⟩] ∧
      Fail Criterion.oneFlag [⟨0⟩, ⟨2⟩, ⟨1⟩] mixedFlags (.unknownMember "a") := by
  have queries := queries_agree_with_evaluation Criterion.oneFlag_reachable
    Criterion.oneFlag_countsFit
  have repeats : ∀ entities : List Record, (∀ entity ∈ entities,
      (Criterion.oneFlag.evaluate entity mixedFlags).world = mixedFlags) →
      ∀ entity ∈ entities, (Criterion.oneFlag.evaluate entity).Repeats (· = mixedFlags) :=
    fun _ unchanged entity member =>
      Probe.repeats_of_settles (Probe.settles_of_unchanged (unchanged entity member))
  have found : Find Criterion.oneFlag [⟨0⟩, ⟨1⟩, ⟨0⟩] mixedFlags [⟨0⟩, ⟨0⟩] := by
    refine ((queries [⟨0⟩, ⟨1⟩, ⟨0⟩]).2.1 (· = mixedFlags) (repeats _ ?_) mixedFlags rfl).1 ?_
    · exact List.forall_mem_cons.mpr ⟨rfl, List.forall_mem_cons.mpr ⟨rfl,
        List.forall_mem_singleton.mpr rfl⟩⟩
    · exact List.forall_mem_cons.mpr ⟨⟨true, rfl⟩, List.forall_mem_cons.mpr ⟨⟨false, rfl⟩,
        List.forall_mem_singleton.mpr ⟨true, rfl⟩⟩⟩
  refine ⟨found, found.collected gather (queries []).2.2.1, ?_⟩
  refine ((queries [⟨0⟩, ⟨2⟩, ⟨1⟩]).2.1 (· = mixedFlags) (repeats _ ?_) mixedFlags rfl).2
    [⟨0⟩] ⟨2⟩ [⟨1⟩] (.unknownMember "a") rfl (List.forall_mem_singleton.mpr ⟨true, rfl⟩) rfl
  exact List.forall_mem_cons.mpr ⟨rfl, List.forall_mem_cons.mpr ⟨rfl,
    List.forall_mem_singleton.mpr rfl⟩⟩

end

end Query

end Criteria

import Criteria.Proofs.Counting
import Criteria.Proofs.MemoHistory

/-!
What a memo answers, told by its history alone.

A verdict on an individual is remembered if an evaluation of it stored the verdict and nothing made
the memo forget it since. Once it is stored, what is done with others, how full the memo gets and
how the world changes has no part in this. By induction over the history it is what the memo answers
with, and where nothing is remembered the criterion is asked.

The only step of the induction that is not about an entry of one who lives is a birth. A newborn has
no history, and by the rule for births there is no entry with its handle either.
-/

namespace Criteria

namespace MemoStage

variable {World : Type} [Records World]

/-- The last moment comes first in the past. -/
def Remembers (past : List (Moment World)) (individual : Individual) (verdict : Bool) : Prop :=
  ∃ later moment earlier, past = later ++ moment :: earlier ∧ moment.Stores individual verdict ∧
    ∀ other ∈ later, ¬ other.Forgets individual

section

variable {past : List (Moment World)} {moment : Moment World} {individual : Individual}
  {verdict : Bool}

private theorem remembers_cons :
    Remembers (moment :: past) individual verdict ↔
      moment.Stores individual verdict ∨
        (Remembers past individual verdict ∧ ¬ moment.Forgets individual) := by
  constructor
  · rintro ⟨later, storing, earlier, parts, stores, keeps⟩
    cases later with
    | nil =>
        cases parts
        exact .inl stores
    | cons last later =>
        cases parts
        rw [List.forall_mem_cons] at keeps
        exact .inr ⟨⟨later, storing, earlier, rfl, stores, keeps.2⟩, keeps.1⟩
  · intro either
    rcases either with stores | ⟨⟨later, storing, earlier, parts, stores, keeps⟩, kept⟩
    · exact ⟨[], moment, past, rfl, stores, nofun⟩
    · refine ⟨moment :: later, storing, earlier, ?_, stores, List.forall_mem_cons.mpr ⟨kept, keeps⟩⟩
      rw [parts, List.cons_append]

theorem Remembers.exists_stores (remembers : Remembers past individual verdict) :
    ∃ moment ∈ past, moment.Stores individual verdict := by
  rcases remembers with ⟨later, moment, earlier, parts, stores, _⟩
  refine ⟨moment, ?_, stores⟩
  rw [parts]
  exact List.mem_append_right later List.mem_cons_self

end

section

variable {criterion : Criterion World} {capacity : Nat} {stage : MemoStage World}
  {past : List (Moment World)}

/-! ## Lives -/

private theorem living_of_living_perform {action : MemoAction World} {individual : Individual}
    (living : individual ∈ (stage.perform action).living) :
    individual ∈ stage.living ∨ ∃ change, action = .birth individual change := by
  cases action with
  | birth newborn change =>
      rcases List.mem_cons.mp living with new | old
      · rw [new]
        exact .inr ⟨change, rfl⟩
      · exact .inl old
  | death => exact .inl (List.mem_of_mem_filter living)
  | evaluate | lookUp | invalidate | clear | purge | change => exact .inl living

private theorem born_perform {action : MemoAction World} {individual : Individual}
    (born : individual ∈ stage.born) : individual ∈ (stage.perform action).born := by
  cases action with
  | birth => exact List.mem_cons_of_mem _ born
  | evaluate | lookUp | invalidate | clear | purge | change | death => exact born

theorem Reached.of_mem (reached : Reached criterion capacity past stage) {moment : Moment World}
    (member : moment ∈ past) :
    Sound criterion capacity moment.stage ∧ moment.stage.Allows moment.action := by
  induction reached with
  | start => cases member
  | next reached allowed induction =>
      rcases List.mem_cons.mp member with last | earlier
      · rw [last]
        exact ⟨reached.sound, allowed⟩
      · exact induction earlier

private theorem Reached.living_of_stores (reached : Reached criterion capacity past stage)
    {moment : Moment World} (member : moment ∈ past) {individual : Individual} {verdict : Bool}
    (stores : moment.Stores individual verdict) : individual ∈ moment.stage.living := by
  have allowed := (reached.of_mem member).2
  rw [stores.1] at allowed
  exact allowed

private theorem Reached.born_of_stores (reached : Reached criterion capacity past stage)
    {moment : Moment World} (member : moment ∈ past) {individual : Individual} {verdict : Bool}
    (stores : moment.Stores individual verdict) : individual ∈ stage.born := by
  induction reached with
  | start => cases member
  | next reached allowed induction =>
      apply born_perform
      rcases List.mem_cons.mp member with last | earlier
      · subst last
        have asked := stores.1
        dsimp only at asked
        rw [asked] at allowed
        exact reached.sound.born individual allowed
      · exact induction earlier

/-! ## Entries by their history -/

private theorem Reached.mem_entries_iff (reached : Reached criterion capacity past stage)
    {individual : Individual} (living : individual ∈ stage.living) {verdict : Bool} :
    ⟨individual.handle, verdict⟩ ∈ stage.memo.entries ↔ Remembers past individual verdict := by
  induction reached with
  | start => cases living
  | @next past stage action reached allowed induction =>
      rcases living_of_living_perform living with before | ⟨change, birth⟩
      · rw [reached.sound.mem_perform_iff allowed before, remembers_cons, induction before]
      · subst birth
        rcases allowed with ⟨new, _, free⟩
        have noEntry : ⟨individual.handle, verdict⟩ ∉ stage.memo.entries :=
          fun member => free _ member rfl
        have noHistory :
            ¬ Remembers (⟨stage, .birth individual change⟩ :: past) individual verdict := by
          rw [remembers_cons, not_or]
          constructor
          · intro stores
            cases stores.1
          · rintro ⟨remembers, _⟩
            rcases remembers.exists_stores with ⟨moment, member, stores⟩
            exact new (reached.born_of_stores member stores)
        exact iff_of_false noEntry noHistory

theorem Reached.verdict?_eq_some_iff (reached : Reached criterion capacity past stage)
    {individual : Individual} (living : individual ∈ stage.living) {verdict : Bool} :
    stage.memo.verdict? individual.handle = some verdict ↔ Remembers past individual verdict := by
  rw [Memo.verdict?_eq_some_iff reached.sound.single, reached.mem_entries_iff living]

private theorem Reached.verdict?_perform (reached : Reached criterion capacity past stage)
    {action : MemoAction World} (allowed : stage.Allows action) {individual : Individual}
    (living : individual ∈ stage.living) (notAsked : action ≠ .evaluate individual)
    (kept : ¬ (Moment.mk stage action).Forgets individual) :
    (stage.perform action).memo.verdict? individual.handle =
      stage.memo.verdict? individual.handle := by
  have sound := reached.sound
  apply Option.ext
  intro verdict
  have notStored : ¬ (Moment.mk stage action).Stores individual verdict :=
    fun stores => notAsked stores.1
  rw [Memo.verdict?_eq_some_iff (sound.perform allowed).single,
    Memo.verdict?_eq_some_iff sound.single, sound.mem_perform_iff allowed living,
    or_iff_right notStored, and_iff_left kept]

/-- A verdict that is remembered is still right if the individual lived in steady worlds only. -/
theorem Reached.answer_of_remembers (reached : Reached criterion capacity past stage)
    {individual : Individual} {verdict : Bool} (remembers : Remembers past individual verdict)
    {steady : World → Prop} (repeats : (criterion.evaluate individual.handle).Repeats steady)
    (always : ∀ moment ∈ past, individual ∈ moment.stage.living → steady moment.stage.world)
    (now : steady stage.world) :
    (criterion.evaluate individual.handle stage.world).answer = .ok verdict := by
  rcases remembers.exists_stores with ⟨moment, member, stores⟩
  have still := always moment member (reached.living_of_stores member stores)
  have answered := stores.2.2.1
  rw [(reached.of_mem member).1.criterion_eq] at answered
  exact (repeats.settles still answered stage.world now).1

/-- Whoever lives is answered from its history.

If a verdict on it is remembered, looking it up and evaluating both give that verdict, and nothing
is read, called or run. If none is, there is nothing to look up and evaluating is to evaluate the
criterion. Other actions than evaluating or invalidating it and clearing the memo leave this as it
is. Where the individual lived in steady worlds only, for which it is enough that what the criterion
reads and tests of it stays the same, the answer is always the one of the criterion. -/
theorem answers_follow_history (reached : Reached criterion capacity past stage)
    {individual : Individual} (living : individual ∈ stage.living) :
    (∀ verdict, Remembers past individual verdict →
      stage.memo.verdict? individual.handle = some verdict ∧
      (stage.evaluation individual).outcome = ⟨.ok verdict, [], stage.world⟩) ∧
    ((∀ verdict, ¬ Remembers past individual verdict) →
      stage.memo.verdict? individual.handle = none ∧
      (stage.evaluation individual).outcome =
        criterion.evaluate individual.handle stage.world) ∧
    (∀ action, stage.Allows action → action ≠ .evaluate individual →
      ¬ (Moment.mk stage action).Forgets individual →
      (stage.perform action).memo.verdict? individual.handle =
        stage.memo.verdict? individual.handle) ∧
    (∀ steady, (criterion.evaluate individual.handle).Repeats steady →
      (∀ moment ∈ past, individual ∈ moment.stage.living → steady moment.stage.world) →
      steady stage.world →
      (stage.evaluation individual).outcome.answer =
        (criterion.evaluate individual.handle stage.world).answer) ∧
    (∀ supply steady known, criterion.Reachable supply → criterion.CountsFit →
      criterion.body.Repeatable steady known individual.handle →
      (criterion.evaluate individual.handle).Repeats steady) := by
  have evaluates := reached.sound.evaluates individual
  have recalls : ∀ verdict, Remembers past individual verdict →
      stage.memo.verdict? individual.handle = some verdict ∧
        (stage.evaluation individual).outcome = ⟨.ok verdict, [], stage.world⟩ := by
    intro verdict remembers
    have found := (reached.verdict?_eq_some_iff living).mpr remembers
    exact ⟨found, evaluates.outcome_of_found found⟩
  have asks : (∀ verdict, ¬ Remembers past individual verdict) →
      stage.memo.verdict? individual.handle = none ∧
        (stage.evaluation individual).outcome =
          criterion.evaluate individual.handle stage.world := by
    intro forgotten
    have absent : stage.memo.verdict? individual.handle = none := by
      apply Option.eq_none_iff_forall_ne_some.mpr
      intro verdict found
      exact forgotten verdict ((reached.verdict?_eq_some_iff living).mp found)
    refine ⟨absent, ?_⟩
    rw [evaluates.outcome_of_absent absent, reached.sound.criterion_eq]
  refine ⟨recalls, asks, ?_, ?_, ?_⟩
  · intro action allowed notAsked kept
    exact reached.verdict?_perform allowed living notAsked kept
  · intro steady repeats always now
    by_cases remembered : ∃ verdict, Remembers past individual verdict
    · rcases remembered with ⟨verdict, remembers⟩
      rw [(recalls verdict remembers).2]
      exact (reached.answer_of_remembers remembers repeats always now).symm
    · rw [(asks (not_exists.mp remembered)).2]
  · intro supply steady known reachable fits repeatable
    exact reachable.sound.repeats fits repeatable

end

/-! ## An heir -/

section

open Sample

def heir : Individual := ⟨3, ⟨0⟩⟩

def heirLives : List (MemoAction Gallery) :=
  twinLives ++ [.evaluate secondTwin,
    .birth heir fun _ => ⟨#[.flags ⟨true, true⟩, .flags ⟨false, true⟩]⟩]

def afterHeirLives : List (Moment Gallery) × MemoStage Gallery :=
  (start (Criterion.flag 0 "a") 1 twins).performAll [] heirLives

private theorem reached_afterHeirLives :
    Reached (Criterion.flag 0 "a") 1 afterHeirLives.1 afterHeirLives.2 :=
  (Reached.start twins).performAll (by decide)

theorem twin_remembered_heir_asked :
    afterHeirLives.2.memo.verdict? secondTwin.handle = some true ∧
      ((Criterion.flag 0 "a").evaluate secondTwin.handle afterHeirLives.2.world).answer =
        .ok false ∧
      afterHeirLives.2.memo.verdict? heir.handle = none ∧
      (afterHeirLives.2.evaluation heir).outcome =
        (Criterion.flag 0 "a").evaluate heir.handle afterHeirLives.2.world := by
  have twinLiving : secondTwin ∈ afterHeirLives.2.living := by decide
  have heirLiving : heir ∈ afterHeirLives.2.living := by decide
  have remembered : Remembers afterHeirLives.1 secondTwin true :=
    (reached_afterHeirLives.verdict?_eq_some_iff twinLiving).mp rfl
  have forgotten : ∀ verdict, ¬ Remembers afterHeirLives.1 heir verdict := by
    intro verdict remembers
    cases (reached_afterHeirLives.verdict?_eq_some_iff heirLiving).mpr remembers
  have twinAnswers := answers_follow_history reached_afterHeirLives twinLiving
  have heirAnswers := answers_follow_history reached_afterHeirLives heirLiving
  exact ⟨(twinAnswers.1 true remembered).1, rfl, heirAnswers.2.1 forgotten⟩

end

end MemoStage

end Criteria

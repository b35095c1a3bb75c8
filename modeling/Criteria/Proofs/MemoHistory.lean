import Criteria.Proofs.Retention
import Criteria.Proofs.TruthTable

/-!
The life of a memo among entities that come and go.

A memo tells entities apart by their handles, and handles are used again: when an entity is dead,
another one may be born with its handle. An entry holds on to the handle of its entity, so no entity
is born with a handle that the memo still has an entry for. That is all that is asked of the world.
Entities may change at any time, and an entry of a dead entity may stay for as long as nobody needs
the room.

From one description of each action an invariant follows for all histories, and from the invariant
the rules by which entries come and go.
-/

namespace Criteria

/-- An entity during its life, told from those that have its handle before or after it. -/
structure Individual where
  number : Nat
  handle : Record
deriving DecidableEq

/-- What can happen to a memo and to the entities around it. The world may change between two uses
of the memo, and a birth brings a new entity into it. -/
inductive MemoAction (World : Type) where
  | evaluate (individual : Individual)
  | lookUp (individual : Individual)
  | invalidate (individual : Individual)
  | clear
  | purge
  | change (change : World → World)
  | birth (individual : Individual) (change : World → World)
  | death (individual : Individual)

/-- A memo, the world around it, those who live now and all who ever did. -/
structure MemoStage (World : Type) where
  memo : Memo World
  world : World
  living : List Individual
  born : List Individual

structure Moment (World : Type) where
  stage : MemoStage World
  action : MemoAction World

namespace MemoStage

variable {World : Type}

/-! ## Actions -/

def start (criterion : Criterion World) (capacity : Nat) (world : World) : MemoStage World :=
  ⟨Memo.create criterion capacity, world, [], []⟩

def alive (stage : MemoStage World) (handle : Record) : Bool :=
  stage.living.any (·.handle == handle)

/-- Only who lives can be asked about. Nobody is born twice, and nobody is born with a handle that
somebody alive has or that an entry holds on to. -/
def Allows (stage : MemoStage World) : MemoAction World → Prop
  | .evaluate individual => individual ∈ stage.living
  | .lookUp individual => individual ∈ stage.living
  | .invalidate individual => individual ∈ stage.living
  | .clear => True
  | .purge => True
  | .change _ => True
  | .birth individual _ =>
      individual ∉ stage.born ∧ stage.alive individual.handle = false ∧
        ∀ entry ∈ stage.memo.entries, entry.entity ≠ individual.handle
  | .death individual => individual ∈ stage.living

instance decideAllows (stage : MemoStage World) :
    (action : MemoAction World) → Decidable (stage.Allows action)
  | .evaluate individual => inferInstanceAs (Decidable (individual ∈ stage.living))
  | .lookUp individual => inferInstanceAs (Decidable (individual ∈ stage.living))
  | .invalidate individual => inferInstanceAs (Decidable (individual ∈ stage.living))
  | .clear => inferInstanceAs (Decidable True)
  | .purge => inferInstanceAs (Decidable True)
  | .change _ => inferInstanceAs (Decidable True)
  | .birth individual _ =>
      inferInstanceAs (Decidable (individual ∉ stage.born ∧ stage.alive individual.handle = false ∧
        ∀ entry ∈ stage.memo.entries, entry.entity ≠ individual.handle))
  | .death individual => inferInstanceAs (Decidable (individual ∈ stage.living))

/-! ## The invariant -/

/-- An entity has one entry at most, there are no more entries than there is room, and those who
live have different handles. -/
structure Sound (criterion : Criterion World) (capacity : Nat) (stage : MemoStage World) :
    Prop where
  criterion_eq : stage.memo.criterion = criterion
  capacity_eq : stage.memo.capacity = capacity
  bounded : stage.memo.entries.length ≤ stage.memo.capacity
  single : (stage.memo.entries.map (·.entity)).Nodup
  apart : ∀ left ∈ stage.living, ∀ right ∈ stage.living, left.handle = right.handle → left = right
  born : ∀ individual ∈ stage.living, individual ∈ stage.born

section

variable {criterion : Criterion World} {capacity : Nat} {stage : MemoStage World}

theorem alive_of_mem {individual : Individual} (living : individual ∈ stage.living) :
    stage.alive individual.handle = true :=
  List.any_eq_true.mpr ⟨individual, living, beq_self_eq_true individual.handle⟩

private theorem sound_start (world : World) :
    Sound criterion capacity (start criterion capacity world) where
  criterion_eq := rfl
  capacity_eq := rfl
  bounded := Nat.zero_le capacity
  single := List.nodup_nil
  apart := nofun
  born := nofun

/-- Entries that are only dropped cannot break the invariant. -/
theorem Sound.dropping (sound : Sound criterion capacity stage) (keep : MemoEntry → Bool) :
    Sound criterion capacity
      { stage with memo := { stage.memo with entries := stage.memo.entries.filter keep } } where
  criterion_eq := sound.criterion_eq
  capacity_eq := sound.capacity_eq
  bounded := Nat.le_trans (List.length_filter_le _ _) sound.bounded
  single := (List.filter_sublist.map _).nodup sound.single
  apart := sound.apart
  born := sound.born

end

/-! ## What actions do -/

variable [Records World]

def evaluation (stage : MemoStage World) (individual : Individual) : MemoRun World :=
  stage.memo.evaluate stage.alive individual.handle stage.world

def perform (stage : MemoStage World) : MemoAction World → MemoStage World
  | .evaluate individual =>
      { stage with
        memo := (stage.evaluation individual).memo
        world := (stage.evaluation individual).outcome.world }
  | .lookUp _ => stage
  | .invalidate individual => { stage with memo := (stage.memo.invalidate individual.handle).2 }
  | .clear => { stage with memo := stage.memo.clear }
  | .purge => { stage with memo := (stage.memo.purge stage.alive).2 }
  | .change change => { stage with world := change stage.world }
  | .birth individual change =>
      { stage with
        world := change stage.world
        living := individual :: stage.living
        born := individual :: stage.born }
  | .death individual => { stage with living := stage.living.filter (· ≠ individual) }

/-- A stage and how a new memo came there, the last moment first. -/
inductive Reached (criterion : Criterion World) (capacity : Nat) :
    List (Moment World) → MemoStage World → Prop where
  | start (world : World) : Reached criterion capacity [] (start criterion capacity world)
  | next {past : List (Moment World)} {stage : MemoStage World} {action : MemoAction World}
      (reached : Reached criterion capacity past stage) (allowed : stage.Allows action) :
      Reached criterion capacity (⟨stage, action⟩ :: past) (stage.perform action)

/-! Actions one after another. -/

def AllowsAll (stage : MemoStage World) : List (MemoAction World) → Prop
  | [] => True
  | action :: actions => stage.Allows action ∧ (stage.perform action).AllowsAll actions

instance decideAllowsAll : (stage : MemoStage World) → (actions : List (MemoAction World)) →
    Decidable (stage.AllowsAll actions)
  | _, [] => inferInstanceAs (Decidable True)
  | stage, action :: actions =>
      have := decideAllowsAll (stage.perform action) actions
      inferInstanceAs (Decidable (stage.Allows action ∧ (stage.perform action).AllowsAll actions))

def performAll (past : List (Moment World)) (stage : MemoStage World) :
    List (MemoAction World) → List (Moment World) × MemoStage World
  | [] => (past, stage)
  | action :: actions => (stage.perform action).performAll (⟨stage, action⟩ :: past) actions

theorem Reached.performAll {criterion : Criterion World} {capacity : Nat}
    {past : List (Moment World)} {stage : MemoStage World}
    (reached : Reached criterion capacity past stage) {actions : List (MemoAction World)}
    (allowed : stage.AllowsAll actions) :
    Reached criterion capacity (stage.performAll past actions).1
      (stage.performAll past actions).2 := by
  induction actions generalizing past stage with
  | nil => exact reached
  | cons action actions induction => exact induction (reached.next allowed.1) allowed.2

section

variable {criterion : Criterion World} {capacity : Nat} {stage : MemoStage World}

theorem Sound.evaluates (sound : Sound criterion capacity stage) (individual : Individual) :
    stage.memo.Evaluates stage.alive individual.handle stage.world
      (stage.evaluation individual) :=
  Memo.evaluates sound.bounded stage.alive individual.handle stage.world

theorem Sound.perform (sound : Sound criterion capacity stage) {action : MemoAction World}
    (allowed : stage.Allows action) : Sound criterion capacity (stage.perform action) := by
  cases action with
  | evaluate individual =>
      have evaluates := sound.evaluates individual
      have length_le := evaluates.length_le sound.bounded
      rw [← evaluates.capacity_eq] at length_le
      exact ⟨evaluates.criterion_eq.trans sound.criterion_eq,
        evaluates.capacity_eq.trans sound.capacity_eq, length_le, evaluates.single sound.single,
        sound.apart, sound.born⟩
  | lookUp => exact sound
  | invalidate => exact sound.dropping _
  | clear =>
      exact ⟨sound.criterion_eq, sound.capacity_eq, Nat.zero_le _, List.nodup_nil, sound.apart,
        sound.born⟩
  | purge => exact sound.dropping _
  | change =>
      exact ⟨sound.criterion_eq, sound.capacity_eq, sound.bounded, sound.single, sound.apart,
        sound.born⟩
  | birth individual =>
      have other : ∀ living ∈ stage.living, living.handle ≠ individual.handle := by
        intro living member same
        have free := allowed.2.1
        rw [← same, alive_of_mem member] at free
        cases free
      refine ⟨sound.criterion_eq, sound.capacity_eq, sound.bounded, sound.single, ?_, ?_⟩
      · intro left leftLiving right rightLiving same
        rcases List.mem_cons.mp leftLiving with leftNew | leftOld
        · rcases List.mem_cons.mp rightLiving with rightNew | rightOld
          · rw [leftNew, rightNew]
          · rw [leftNew] at same
            exact absurd same.symm (other right rightOld)
        · rcases List.mem_cons.mp rightLiving with rightNew | rightOld
          · rw [rightNew] at same
            exact absurd same (other left leftOld)
          · exact sound.apart left leftOld right rightOld same
      · intro living member
        rcases List.mem_cons.mp member with new | old
        · rw [new]
          exact List.mem_cons_self
        · exact List.mem_cons_of_mem _ (sound.born living old)
  | death =>
      refine ⟨sound.criterion_eq, sound.capacity_eq, sound.bounded, sound.single, ?_, ?_⟩
      · intro left leftLiving right rightLiving
        exact sound.apart left (List.mem_of_mem_filter leftLiving) right
          (List.mem_of_mem_filter rightLiving)
      · intro living member
        exact sound.born living (List.mem_of_mem_filter member)

theorem Reached.sound {past : List (Moment World)}
    (reached : Reached criterion capacity past stage) : Sound criterion capacity stage := by
  induction reached with
  | start world => exact sound_start world
  | next _ allowed sound => exact sound.perform allowed

end

end MemoStage

/-! ## Moments -/

namespace Moment

variable {World : Type}

def isEvaluation (moment : Moment World) : Bool :=
  match moment.action with
  | .evaluate _ => true
  | _ => false

def isHit (moment : Moment World) : Bool :=
  match moment.action with
  | .evaluate individual => moment.stage.memo.entries.any (·.entity == individual.handle)
  | _ => false

def Forgets (moment : Moment World) (individual : Individual) : Prop :=
  moment.action = .invalidate individual ∨ moment.action = .clear

variable [Records World]

/-- An evaluation of the individual that finds no entry, gives the verdict and has room for it. -/
def Stores (moment : Moment World) (individual : Individual) (verdict : Bool) : Prop :=
  moment.action = .evaluate individual ∧ moment.stage.memo.verdict? individual.handle = none ∧
    (moment.stage.memo.criterion.evaluate individual.handle moment.stage.world).answer =
      .ok verdict ∧
    moment.stage.memo.HasRoom moment.stage.alive

end Moment

namespace MemoStage

section

variable {World : Type} [Records World] {criterion : Criterion World} {capacity : Nat}
  {stage : MemoStage World}

theorem Sound.mem_perform_iff (sound : Sound criterion capacity stage) {action : MemoAction World}
    (allowed : stage.Allows action) {individual : Individual} (living : individual ∈ stage.living)
    {verdict : Bool} :
    ⟨individual.handle, verdict⟩ ∈ (stage.perform action).memo.entries ↔
      (Moment.mk stage action).Stores individual verdict ∨
        (⟨individual.handle, verdict⟩ ∈ stage.memo.entries ∧
          ¬ (Moment.mk stage action).Forgets individual) := by
  have alive := alive_of_mem living
  have handle_ne {other : Individual} (otherLiving : other ∈ stage.living)
      (different : individual ≠ other) : individual.handle ≠ other.handle :=
    fun same => different (sound.apart individual living other otherLiving same)
  cases action with
  | evaluate other =>
      have evaluates := sound.evaluates other
      by_cases same : individual = other
      · subst same
        have own : ⟨individual.handle, verdict⟩ ∈ (stage.evaluation individual).memo.entries ↔ _ :=
          evaluates.mem_self
        simp [MemoStage.perform, own, Moment.Stores, Moment.Forgets, or_comm]
      · have kept : ⟨individual.handle, verdict⟩ ∈ (stage.evaluation other).memo.entries ↔ _ :=
          evaluates.mem_of_ne (handle_ne allowed same) alive
        simp [MemoStage.perform, kept, Moment.Stores, Moment.Forgets, Ne.symm same]
  | lookUp => simp [MemoStage.perform, Moment.Stores, Moment.Forgets]
  | invalidate other =>
      by_cases same : individual = other
      · subst same
        simp [MemoStage.perform, Memo.invalidate, Moment.Stores, Moment.Forgets]
      · have different := handle_ne allowed same
        simp [MemoStage.perform, Memo.invalidate, Moment.Stores, Moment.Forgets, different,
          Ne.symm same]
  | clear => simp [MemoStage.perform, Memo.clear, Moment.Stores, Moment.Forgets]
  | purge => simp [MemoStage.perform, Memo.entries_purge, Moment.Stores, Moment.Forgets, alive]
  | change => simp [MemoStage.perform, Moment.Stores, Moment.Forgets]
  | birth => simp [MemoStage.perform, Moment.Stores, Moment.Forgets]
  | death => simp [MemoStage.perform, Moment.Stores, Moment.Forgets]

/-! ## The counters -/

private theorem Sound.hits_perform (sound : Sound criterion capacity stage)
    (action : MemoAction World) :
    (stage.perform action).memo.hits =
      stage.memo.hits + (Moment.mk stage action).isHit.toNat := by
  cases action with
  | evaluate individual =>
      have counted := (sound.evaluates individual).hits_eq
      rw [Memo.isSome_verdict?] at counted
      exact counted
  | _ => rfl

private theorem Sound.total_perform (sound : Sound criterion capacity stage)
    (action : MemoAction World) :
    (stage.perform action).memo.hits + (stage.perform action).memo.misses =
      stage.memo.hits + stage.memo.misses + (Moment.mk stage action).isEvaluation.toNat := by
  cases action with
  | evaluate individual => exact (sound.evaluates individual).total_eq
  | _ => rfl

theorem countP_cons_eq {Item : Type} (test : Item → Bool) (item : Item) (items : List Item) :
    (item :: items).countP test = items.countP test + (test item).toNat := by
  rw [List.countP_cons]
  cases test item <;> rfl

private theorem Reached.hits_eq {past : List (Moment World)}
    (reached : Reached criterion capacity past stage) :
    stage.memo.hits = past.countP Moment.isHit := by
  induction reached with
  | start => rfl
  | next reached allowed induction =>
      rw [reached.sound.hits_perform, induction, countP_cons_eq]

private theorem Reached.total_eq {past : List (Moment World)}
    (reached : Reached criterion capacity past stage) :
    stage.memo.hits + stage.memo.misses = past.countP Moment.isEvaluation := by
  induction reached with
  | start => rfl
  | next reached allowed induction =>
      rw [reached.sound.total_perform, induction, countP_cons_eq]

/-! ## The rules for entries -/

/-- A verdict on the individual that is given now and was not remembered. -/
structure Answers (stage : MemoStage World) (individual : Individual) (verdict : Bool) : Prop where
  absent : stage.memo.verdict? individual.handle = none
  answered : (stage.evaluation individual).outcome.answer = .ok verdict

/-- How a memo that came this far holds its entries, and what becomes of them next. -/
structure Retention (capacity : Nat) (past : List (Moment World)) (stage : MemoStage World) :
    Prop where
  capacity_eq : stage.memo.capacity = capacity
  bounded : stage.memo.entries.length ≤ capacity
  single : (stage.memo.entries.map (·.entity)).Nodup
  keeps : ∀ action, stage.Allows action → ∀ individual ∈ stage.living, ∀ verdict,
    ⟨individual.handle, verdict⟩ ∈ stage.memo.entries →
    ⟨individual.handle, verdict⟩ ∉ (stage.perform action).memo.entries →
    action = .invalidate individual ∨ action = .clear
  stores : ∀ individual verdict, stage.Answers individual verdict →
    (⟨individual.handle, verdict⟩ ∈ (stage.evaluation individual).memo.entries ↔
      stage.memo.entries.length < capacity ∨
        ∃ entry ∈ stage.memo.entries, stage.alive entry.entity = false)
  adds : ∀ individual verdict, stage.Answers individual verdict →
    stage.memo.entries.length < capacity →
    (stage.evaluation individual).memo.entries =
      ⟨individual.handle, verdict⟩ :: stage.memo.entries
  exchanges : ∀ individual verdict, stage.Answers individual verdict →
    stage.memo.entries.length = capacity → ∀ entry,
    (entry ∈ (stage.evaluation individual).memo.entries ↔
      (entry ∈ stage.memo.entries ∧ stage.alive entry.entity = true) ∨
        (entry = ⟨individual.handle, verdict⟩ ∧
          ∃ dead ∈ stage.memo.entries, stage.alive dead.entity = false))
  purges : (stage.perform .purge).memo.entries =
      (stage.memo.entries.filter fun entry => stage.alive entry.entity) ∧
    (stage.memo.purge stage.alive).1 =
      stage.memo.entries.countP fun entry => !stage.alive entry.entity
  fails : ∀ individual failure,
    (stage.evaluation individual).outcome.answer = .error failure →
    (stage.evaluation individual).memo.entries = stage.memo.entries
  hits : stage.memo.hits = past.countP Moment.isHit
  total : stage.memo.hits + stage.memo.misses = past.countP Moment.isEvaluation
  fits : past.countP Moment.isEvaluation < UInt64.size →
    stage.memo.hits < UInt64.size ∧ stage.memo.misses < UInt64.size

private theorem Sound.keeps (sound : Sound criterion capacity stage) {action : MemoAction World}
    (allowed : stage.Allows action) {individual : Individual} (living : individual ∈ stage.living)
    {verdict : Bool} (before : ⟨individual.handle, verdict⟩ ∈ stage.memo.entries)
    (after : ⟨individual.handle, verdict⟩ ∉ (stage.perform action).memo.entries) :
    action = .invalidate individual ∨ action = .clear := by
  rw [sound.mem_perform_iff allowed living, not_or, not_and, not_not] at after
  exact after.2 before

private theorem Sound.stores (sound : Sound criterion capacity stage) {individual : Individual}
    {verdict : Bool} (answers : stage.Answers individual verdict) :
    ⟨individual.handle, verdict⟩ ∈ (stage.evaluation individual).memo.entries ↔
      stage.memo.HasRoom stage.alive := by
  have evaluates := sound.evaluates individual
  have absent := answers.absent
  have answered := answers.answered
  rw [evaluates.outcome_of_absent absent] at answered
  have new : ⟨individual.handle, verdict⟩ ∉ stage.memo.entries :=
    fun member => Memo.verdict?_eq_none_iff.mp absent _ member rfl
  rw [evaluates.mem_self, or_iff_right new, and_iff_right absent, and_iff_right answered]

theorem retention_of_reached {past : List (Moment World)}
    (reached : Reached criterion capacity past stage) : Retention capacity past stage := by
  have sound := reached.sound
  have capacity_eq := sound.capacity_eq
  constructor
  case capacity_eq => exact capacity_eq
  case bounded =>
    rw [← capacity_eq]
    exact sound.bounded
  case single => exact sound.single
  case keeps =>
    intro action allowed individual living verdict before after
    exact sound.keeps allowed living before after
  case stores =>
    intro individual verdict answers
    rw [sound.stores answers, Memo.HasRoom, capacity_eq]
  case adds =>
    intro individual verdict answers room
    rw [← capacity_eq] at room
    exact (sound.evaluates individual).entries_of_room answers.absent answers.answered room
  case exchanges =>
    intro individual verdict answers full entry
    rw [← capacity_eq] at full
    exact (sound.evaluates individual).mem_of_full answers.absent answers.answered full
  case purges => exact ⟨Memo.entries_purge _ _, Memo.fst_purge _ _⟩
  case fails =>
    intro individual failure answered
    exact (sound.evaluates individual).entries_of_error answered
  case hits => exact reached.hits_eq
  case total => exact reached.total_eq
  case fits =>
    intro few
    have total := reached.total_eq
    omega

end

/-! ## Two lives -/

section

open Sample

def twins : Gallery :=
  ⟨#[.flags ⟨true, false⟩, .flags ⟨true, false⟩]⟩

def firstTwin : Individual := ⟨1, ⟨0⟩⟩

def secondTwin : Individual := ⟨2, ⟨1⟩⟩

def twinLives : List (MemoAction Gallery) :=
  [.birth firstTwin id, .birth secondTwin id, .evaluate firstTwin, .evaluate secondTwin,
    .change fun gallery => ⟨gallery.shapes.set! 0 (.flags ⟨false, false⟩)⟩, .evaluate firstTwin,
    .death firstTwin]

def afterTwinLives : List (Moment Gallery) × MemoStage Gallery :=
  (start (Criterion.flag 0 "a") 1 twins).performAll [] twinLives

private theorem reached_afterTwinLives :
    Reached (Criterion.flag 0 "a") 1 afterTwinLives.1 afterTwinLives.2 :=
  (Reached.start twins).performAll (by decide)

theorem second_twin_takes_the_place :
    afterTwinLives.2.memo.hits = 1 ∧ afterTwinLives.2.memo.hits + afterTwinLives.2.memo.misses = 3 ∧
      ⟨secondTwin.handle, true⟩ ∈ (afterTwinLives.2.evaluation secondTwin).memo.entries := by
  have retention := retention_of_reached reached_afterTwinLives
  have answers : afterTwinLives.2.Answers secondTwin true := ⟨rfl, rfl⟩
  have dead : ∃ entry ∈ afterTwinLives.2.memo.entries,
      afterTwinLives.2.alive entry.entity = false := ⟨⟨⟨0⟩, true⟩, .head _, rfl⟩
  exact ⟨retention.hits, retention.total, (retention.stores _ _ answers).mpr (.inr dead)⟩

end

end MemoStage

end Criteria

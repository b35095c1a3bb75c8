import Criteria.Memo
import Mathlib.Data.List.Nodup

/-!
What one operation of a memo does to its entries.

An entity has at most one entry, so looking it up and finding its entry in the list are the same.
Every operation is described by the entries that it leaves. A verdict is kept if there is room or if
a dead entry can make room, and nothing alive is dropped for it.
-/

namespace Criteria

namespace Memo

variable {World : Type}

/-- Whether a verdict can be kept: there is room, or an entry of an entity that is not alive. -/
def HasRoom (memo : Memo World) (alive : Record → Bool) : Prop :=
  memo.entries.length < memo.capacity ∨ ∃ entry ∈ memo.entries, alive entry.entity = false

theorem alive_of_not_hasRoom {memo : Memo World} {alive : Record → Bool}
    (noRoom : ¬ memo.HasRoom alive) : ∀ entry ∈ memo.entries, alive entry.entity = true := by
  intro entry member
  by_contra dead
  exact noRoom (.inr ⟨entry, member, Bool.eq_false_iff.mpr dead⟩)

/-! ## Looking up -/

section

variable {memo : Memo World} {entity : Record} {verdict : Bool}

theorem verdict?_eq_none_iff :
    memo.verdict? entity = none ↔ ∀ entry ∈ memo.entries, entry.entity ≠ entity := by
  simp [verdict?]

theorem isSome_verdict? :
    (memo.verdict? entity).isSome = memo.entries.any (·.entity == entity) := by
  rw [verdict?, Option.isSome_map, Bool.eq_iff_iff, List.find?_isSome, List.any_eq_true]

theorem verdict?_eq_some_iff (single : (memo.entries.map (·.entity)).Nodup) :
    memo.verdict? entity = some verdict ↔ ⟨entity, verdict⟩ ∈ memo.entries := by
  unfold verdict?
  constructor
  · intro found
    rcases Option.map_eq_some_iff.mp found with ⟨entry, first, rfl⟩
    have own : entry.entity = entity := by simpa using List.find?_some first
    have member := List.mem_of_find?_eq_some first
    rw [← own]
    exact member
  · intro member
    have found : (memo.entries.find? (·.entity == entity)).isSome := by
      rw [List.find?_isSome]
      exact ⟨_, member, beq_self_eq_true entity⟩
    rcases Option.isSome_iff_exists.mp found with ⟨entry, first⟩
    have own : entry.entity = entity := by simpa using List.find?_some first
    have same : entry = ⟨entity, verdict⟩ :=
      List.inj_on_of_nodup_map single (List.mem_of_find?_eq_some first) member own
    rw [first, same]
    rfl

end

/-! ## Purging -/

section

variable {memo : Memo World} {alive : Record → Bool}

theorem entries_purge (memo : Memo World) (alive : Record → Bool) :
    (memo.purge alive).2.entries = memo.entries.filter fun entry => alive entry.entity :=
  rfl

theorem fst_purge (memo : Memo World) (alive : Record → Bool) :
    (memo.purge alive).1 = memo.entries.countP fun entry => !alive entry.entity := by
  have parts : memo.entries.length =
      (memo.entries.filter fun entry => alive entry.entity).length +
        (memo.entries.filter fun entry => !alive entry.entity).length :=
    List.length_eq_length_filter_add _
  rw [List.countP_eq_length_filter, purge]
  omega

private theorem purge_of_all_alive (allAlive : ∀ entry ∈ memo.entries, alive entry.entity = true) :
    memo.purge alive = (0, memo) := by
  have kept : (memo.entries.filter fun entry => alive entry.entity) = memo.entries :=
    List.filter_eq_self.mpr allAlive
  simp only [purge, kept, Nat.sub_self]

theorem length_purge_lt (dead : ∃ entry ∈ memo.entries, alive entry.entity = false) :
    (memo.purge alive).2.entries.length < memo.entries.length := by
  rcases dead with ⟨entry, member, dead⟩
  rw [entries_purge, List.length_filter_lt_length_iff_exists]
  exact ⟨entry, member, by simp [dead]⟩

end

/-! ## Publishing -/

section

variable {memo : Memo World} {alive : Record → Bool} {entity : Record}

private theorem publish_of_room (absent : memo.verdict? entity = none)
    (room : memo.entries.length < memo.capacity) (verdict : Bool) :
    memo.publish alive entity verdict = (verdict, memo.insert entity verdict, []) := by
  simp only [publish, absent, if_pos room]

theorem publish_of_dead (absent : memo.verdict? entity = none)
    (full : memo.entries.length = memo.capacity)
    (dead : ∃ entry ∈ memo.entries, alive entry.entity = false) (verdict : Bool) :
    memo.publish alive entity verdict =
      (verdict, (memo.purge alive).2.insert entity verdict,
        [.memoPurged (memo.purge alive).1]) := by
  have noRoom : ¬ memo.entries.length < memo.capacity := by omega
  have fewer := length_purge_lt dead
  rw [full] at fewer
  simp only [publish, absent, if_neg noRoom, if_pos fewer]

private theorem publish_of_full (absent : memo.verdict? entity = none)
    (noRoom : ¬ memo.HasRoom alive) (verdict : Bool) :
    memo.publish alive entity verdict =
      (verdict, memo, [.memoPurged 0, .memoFull memo.capacity]) := by
  have noneLeft : ¬ memo.entries.length < memo.capacity := fun room => noRoom (.inl room)
  have unchanged := purge_of_all_alive (alive_of_not_hasRoom noRoom)
  simp only [publish, absent, if_neg noneLeft, unchanged]

end

/-! ## Evaluating -/

section

variable [Records World]

/-- All that an evaluation through a memo can do. -/
inductive Evaluates (memo : Memo World) (alive : Record → Bool) (entity : Record) (world : World) :
    MemoRun World → Prop where
  | recalled {verdict : Bool} (found : memo.verdict? entity = some verdict) :
      Evaluates memo alive entity world
        ⟨⟨.ok verdict, [], world⟩, { memo with hits := memo.hits + 1 }, .memoHit verdict, []⟩
  | failed {failure : Failure} (absent : memo.verdict? entity = none)
      (answered : (memo.criterion.evaluate entity world).answer = .error failure) :
      Evaluates memo alive entity world
        ⟨memo.criterion.evaluate entity world, { memo with misses := memo.misses + 1 }, .memoMissed,
          []⟩
  | kept {verdict : Bool} (absent : memo.verdict? entity = none)
      (answered : (memo.criterion.evaluate entity world).answer = .ok verdict)
      (room : memo.entries.length < memo.capacity) :
      Evaluates memo alive entity world
        ⟨memo.criterion.evaluate entity world,
          { memo with entries := ⟨entity, verdict⟩ :: memo.entries, misses := memo.misses + 1 },
          .memoMissed, []⟩
  | exchanged {verdict : Bool} (absent : memo.verdict? entity = none)
      (answered : (memo.criterion.evaluate entity world).answer = .ok verdict)
      (full : memo.entries.length = memo.capacity)
      (dead : ∃ entry ∈ memo.entries, alive entry.entity = false) :
      Evaluates memo alive entity world
        ⟨memo.criterion.evaluate entity world,
          { memo with
            entries := ⟨entity, verdict⟩ :: memo.entries.filter fun entry => alive entry.entity
            misses := memo.misses + 1 },
          .memoMissed, [.memoPurged (memo.purge alive).1]⟩
  | refused {verdict : Bool} (absent : memo.verdict? entity = none)
      (answered : (memo.criterion.evaluate entity world).answer = .ok verdict)
      (noRoom : ¬ memo.HasRoom alive) :
      Evaluates memo alive entity world
        ⟨memo.criterion.evaluate entity world, { memo with misses := memo.misses + 1 }, .memoMissed,
          [.memoPurged 0, .memoFull memo.capacity]⟩

section

variable {memo : Memo World} {alive : Record → Bool} {entity : Record} {world : World}

private theorem evaluate_of_found {verdict : Bool} (found : memo.verdict? entity = some verdict) :
    memo.evaluate alive entity world =
      ⟨⟨.ok verdict, [], world⟩, { memo with hits := memo.hits + 1 }, .memoHit verdict, []⟩ := by
  simp only [evaluate, found]

private theorem evaluate_of_failure {failure : Failure} (absent : memo.verdict? entity = none)
    (answered : (memo.criterion.evaluate entity world).answer = .error failure) :
    memo.evaluate alive entity world =
      ⟨memo.criterion.evaluate entity world, { memo with misses := memo.misses + 1 }, .memoMissed,
        []⟩ := by
  rcases ran : memo.criterion.evaluate entity world with ⟨answer, touches, later⟩
  rw [ran] at answered
  cases answered
  simp only [evaluate, absent, ran]

private theorem evaluate_of_answer {verdict : Bool} (absent : memo.verdict? entity = none)
    (answered : (memo.criterion.evaluate entity world).answer = .ok verdict) {after : Memo World}
    {events : List Event}
    (published : { memo with misses := memo.misses + 1 }.publish alive entity verdict =
      (verdict, after, events)) :
    memo.evaluate alive entity world =
      ⟨memo.criterion.evaluate entity world, after, .memoMissed, events⟩ := by
  rcases ran : memo.criterion.evaluate entity world with ⟨answer, touches, later⟩
  rw [ran] at answered
  cases answered
  simp only [evaluate, absent, ran, published]

end

theorem evaluates {memo : Memo World} (bounded : memo.entries.length ≤ memo.capacity)
    (alive : Record → Bool) (entity : Record) (world : World) :
    memo.Evaluates alive entity world (memo.evaluate alive entity world) := by
  cases found : memo.verdict? entity with
  | some verdict =>
      rw [evaluate_of_found found]
      exact .recalled found
  | none =>
      have absent : verdict? { memo with misses := memo.misses + 1 } entity = none := found
      cases answered : (memo.criterion.evaluate entity world).answer with
      | error failure =>
          rw [evaluate_of_failure found answered]
          exact .failed found answered
      | ok verdict =>
          by_cases room : memo.HasRoom alive
          · by_cases few : memo.entries.length < memo.capacity
            · rw [evaluate_of_answer found answered (publish_of_room absent few verdict)]
              exact .kept found answered few
            · have full : memo.entries.length = memo.capacity := by omega
              have dead := room.resolve_left few
              rw [evaluate_of_answer found answered (publish_of_dead absent full dead verdict)]
              exact .exchanged found answered full dead
          · rw [evaluate_of_answer found answered (publish_of_full absent room verdict)]
            exact .refused found answered room

/-! ### What is left of an evaluation -/

namespace Evaluates

variable {memo : Memo World} {alive : Record → Bool} {entity : Record} {world : World}
  {run : MemoRun World}

theorem criterion_eq (evaluates : memo.Evaluates alive entity world run) :
    run.memo.criterion = memo.criterion := by
  cases evaluates <;> rfl

theorem capacity_eq (evaluates : memo.Evaluates alive entity world run) :
    run.memo.capacity = memo.capacity := by
  cases evaluates <;> rfl

theorem length_le (evaluates : memo.Evaluates alive entity world run)
    (bounded : memo.entries.length ≤ memo.capacity) : run.memo.entries.length ≤ memo.capacity := by
  cases evaluates with
  | recalled | failed | refused => exact bounded
  | kept _ _ room => exact room
  | exchanged _ _ full dead =>
      have fewer := length_purge_lt dead
      rw [full] at fewer
      exact fewer

theorem single (evaluates : memo.Evaluates alive entity world run)
    (single : (memo.entries.map (·.entity)).Nodup) : (run.memo.entries.map (·.entity)).Nodup := by
  have new (absent : memo.verdict? entity = none) : entity ∉ memo.entries.map (·.entity) := by
    intro member
    rcases List.mem_map.mp member with ⟨entry, member, own⟩
    exact verdict?_eq_none_iff.mp absent entry member own
  have fewer : ((memo.entries.filter fun entry => alive entry.entity).map (·.entity)).Sublist
      (memo.entries.map (·.entity)) := List.filter_sublist.map _
  cases evaluates with
  | recalled | failed | refused => exact single
  | kept absent => exact List.nodup_cons.mpr ⟨new absent, single⟩
  | exchanged absent =>
      exact List.nodup_cons.mpr ⟨fun member => new absent (fewer.subset member),
        fewer.nodup single⟩

theorem hits_eq (evaluates : memo.Evaluates alive entity world run) :
    run.memo.hits = memo.hits + (memo.verdict? entity).isSome.toNat := by
  cases evaluates with
  | recalled found => simp [found]
  | failed absent | kept absent | exchanged absent | refused absent => simp [absent]

theorem total_eq (evaluates : memo.Evaluates alive entity world run) :
    run.memo.hits + run.memo.misses = memo.hits + memo.misses + 1 := by
  cases evaluates <;> dsimp only <;> omega

theorem outcome_of_absent (evaluates : memo.Evaluates alive entity world run)
    (absent : memo.verdict? entity = none) :
    run.outcome = memo.criterion.evaluate entity world := by
  cases evaluates with
  | recalled found =>
      rw [absent] at found
      cases found
  | failed | kept | exchanged | refused => rfl

theorem outcome_of_found (evaluates : memo.Evaluates alive entity world run) {verdict : Bool}
    (found : memo.verdict? entity = some verdict) : run.outcome = ⟨.ok verdict, [], world⟩ := by
  cases evaluates with
  | recalled recalled =>
      rw [found] at recalled
      cases recalled
      rfl
  | failed absent | kept absent | exchanged absent | refused absent =>
      rw [found] at absent
      cases absent

theorem entries_of_error (evaluates : memo.Evaluates alive entity world run) {failure : Failure}
    (answered : run.outcome.answer = .error failure) : run.memo.entries = memo.entries := by
  cases evaluates with
  | recalled | failed | refused => rfl
  | kept _ stored | exchanged _ stored =>
      rw [stored] at answered
      cases answered

/-! A verdict that was not kept before. -/

section

variable {verdict : Bool}

theorem cases_of_answer (evaluates : memo.Evaluates alive entity world run)
    (absent : memo.verdict? entity = none) (answered : run.outcome.answer = .ok verdict) :
    (memo.entries.length < memo.capacity ∧
      run.memo.entries = ⟨entity, verdict⟩ :: memo.entries) ∨
    (memo.entries.length = memo.capacity ∧ (∃ dead ∈ memo.entries, alive dead.entity = false) ∧
      run.memo.entries =
        ⟨entity, verdict⟩ :: memo.entries.filter fun entry => alive entry.entity) ∨
    (¬ memo.HasRoom alive ∧ run.memo.entries = memo.entries) := by
  cases evaluates with
  | recalled found =>
      rw [absent] at found
      cases found
  | failed _ failed =>
      rw [failed] at answered
      cases answered
  | kept _ stored room =>
      rw [stored] at answered
      cases answered
      exact .inl ⟨room, rfl⟩
  | exchanged _ stored full dead =>
      rw [stored] at answered
      cases answered
      exact .inr (.inl ⟨full, dead, rfl⟩)
  | refused _ _ noRoom => exact .inr (.inr ⟨noRoom, rfl⟩)

theorem entries_of_room (evaluates : memo.Evaluates alive entity world run)
    (absent : memo.verdict? entity = none) (answered : run.outcome.answer = .ok verdict)
    (room : memo.entries.length < memo.capacity) :
    run.memo.entries = ⟨entity, verdict⟩ :: memo.entries := by
  rcases evaluates.cases_of_answer absent answered with ⟨_, entries⟩ | ⟨full, _⟩ | ⟨noRoom, _⟩
  · exact entries
  · omega
  · exact absurd (.inl room) noRoom

theorem mem_of_full (evaluates : memo.Evaluates alive entity world run)
    (absent : memo.verdict? entity = none) (answered : run.outcome.answer = .ok verdict)
    (full : memo.entries.length = memo.capacity) {entry : MemoEntry} :
    entry ∈ run.memo.entries ↔
      (entry ∈ memo.entries ∧ alive entry.entity = true) ∨
        (entry = ⟨entity, verdict⟩ ∧ ∃ dead ∈ memo.entries, alive dead.entity = false) := by
  rcases evaluates.cases_of_answer absent answered with
    ⟨room, _⟩ | ⟨_, dead, entries⟩ | ⟨noRoom, entries⟩
  · omega
  · rw [entries, List.mem_cons, List.mem_filter, and_iff_left dead, or_comm]
  · have noDead : ¬ ∃ dead ∈ memo.entries, alive dead.entity = false :=
      fun dead => noRoom (.inr dead)
    have living := alive_of_not_hasRoom noRoom entry
    rw [entries, and_iff_left_of_imp living, or_iff_left fun new => noDead new.2]

end

theorem mem_of_ne (evaluates : memo.Evaluates alive entity world run) {other : Record}
    (different : other ≠ entity) (living : alive other = true) {verdict : Bool} :
    ⟨other, verdict⟩ ∈ run.memo.entries ↔ ⟨other, verdict⟩ ∈ memo.entries := by
  cases evaluates with
  | recalled | failed | refused => exact Iff.rfl
  | kept => simp [different]
  | exchanged => simp [different, living]

theorem mem_self (evaluates : memo.Evaluates alive entity world run) {verdict : Bool} :
    ⟨entity, verdict⟩ ∈ run.memo.entries ↔
      ⟨entity, verdict⟩ ∈ memo.entries ∨ (memo.verdict? entity = none ∧
        (memo.criterion.evaluate entity world).answer = .ok verdict ∧ memo.HasRoom alive) := by
  have new (absent : memo.verdict? entity = none) : ⟨entity, verdict⟩ ∉ memo.entries :=
    fun member => verdict?_eq_none_iff.mp absent _ member rfl
  cases evaluates with
  | recalled found => simp [found]
  | failed absent answered => simp [absent, answered, new absent]
  | @kept found absent answered room =>
      have hasRoom : memo.HasRoom alive := .inl room
      simp only [List.mem_cons, MemoEntry.mk.injEq, true_and, new absent, or_false, false_or,
        absent, answered, Except.ok.injEq, hasRoom, and_true]
      exact eq_comm
  | @exchanged found absent answered _ dead =>
      have hasRoom : memo.HasRoom alive := .inr dead
      simp only [List.mem_cons, List.mem_filter, MemoEntry.mk.injEq, true_and, new absent, or_false,
        false_or, false_and, absent, answered, Except.ok.injEq, hasRoom, and_true]
      exact eq_comm
  | refused absent answered noRoom => simp [absent, new absent, noRoom]

end Evaluates

end

end Memo

end Criteria

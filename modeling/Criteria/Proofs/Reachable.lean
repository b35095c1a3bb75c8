import Criteria.Builder
import Criteria.Proofs.Composition
import Criteria.Sample.Gallery

/-!
Criteria that can come into being, and what is true of all of them.

A criterion is reachable when some run of constructions makes it, whatever else was made before and
in between; the supply tells how far the run has come. Every construction is described once, by what
it makes of its operands. From these descriptions an invariant follows for whole runs: a reachable
criterion mentions no variable but its own, and what it remembers besides its term agrees with the
term.
-/

namespace Criteria

variable {World : Type}

/-! ## Runs of constructions -/

namespace Criterion

/-- The criterion may exist when the supply has come this far. -/
inductive Reachable : Supply → Criterion World → Prop where
  | later {before after : Supply} {criterion : Criterion World}
      (reachable : Reachable before criterion) (ahead : before.next ≤ after.next) :
      Reachable after criterion
  | compare {supply after : Supply} {path : Path} {comparison : Comparison} {value : Value}
      {criterion : Criterion World}
      (made : Criterion.compare path comparison value supply = (criterion, after)) :
      Reachable after criterion
  | test {supply after : Supply} {path : Path} {operator : String} {operand : Option Value}
      {run : Value → Probe World Bool} {criterion : Criterion World}
      (made : Criterion.test path operator operand run supply = (criterion, after)) :
      Reachable after criterion
  | custom {supply after : Supply} {label : String} {run : Record → Probe World Bool}
      {criterion : Criterion World}
      (made : Criterion.custom label run supply = (criterion, after)) : Reachable after criterion
  | always {supply after : Supply} {verdict : Bool} {criterion : Criterion World}
      (made : Criterion.always verdict supply = (criterion, after)) : Reachable after criterion
  | ofTerm {supply after : Supply} {bound : Variable} {term : Term World}
      {criterion : Criterion World} (drawn : bound.number < supply.next)
      (made : Criterion.ofTerm bound term supply = (.ok criterion, after)) :
      Reachable after criterion
  | build {supply after : Supply} {make : Variable → Term World} {criterion : Criterion World}
      (made : Criterion.build make supply = (.ok criterion, after)) : Reachable after criterion
  | combine {supply after : Supply} {connective : Connective}
      {left right criterion : Criterion World} (leftReachable : Reachable supply left)
      (rightReachable : Reachable supply right)
      (made : Criterion.combine connective left right supply = (criterion, after)) :
      Reachable after criterion
  | negate {supply after : Supply} {operand criterion : Criterion World}
      (operandReachable : Reachable supply operand)
      (made : Criterion.negate operand supply = (criterion, after)) : Reachable after criterion
  | all {supply after : Supply} {operands : List (Criterion World)} {criterion : Criterion World}
      (reachable : ∀ operand ∈ operands, Reachable supply operand)
      (made : Criterion.all operands supply = (.ok criterion, after)) : Reachable after criterion
  | anyOf {supply after : Supply} {operands : List (Criterion World)} {criterion : Criterion World}
      (reachable : ∀ operand ∈ operands, Reachable supply operand)
      (made : Criterion.anyOf operands supply = (.ok criterion, after)) : Reachable after criterion
  | noneOf {supply after : Supply} {operands : List (Criterion World)}
      {criterion : Criterion World} (reachable : ∀ operand ∈ operands, Reachable supply operand)
      (made : Criterion.noneOf operands supply = (.ok criterion, after)) :
      Reachable after criterion
  | counting {supply after : Supply} {quantifier : Quantifier}
      {operands : List (Criterion World)} {criterion : Criterion World}
      (reachable : ∀ operand ∈ operands, Reachable supply operand)
      (made : Criterion.counting quantifier operands supply = (.ok criterion, after)) :
      Reachable after criterion
  | named {supply after : Supply} {name : String} {original criterion : Criterion World}
      (reachable : Reachable supply original)
      (made : original.named name supply = (criterion, after)) : Reachable after criterion
  | cached {supply after : Supply} {original criterion : Criterion World}
      (reachable : Reachable supply original)
      (made : original.cached supply = (criterion, after)) : Reachable after criterion
  | uncached {supply : Supply} {criterion : Criterion World}
      (reachable : Reachable supply criterion) : Reachable supply criterion.uncached

/-! ## The invariant -/

/-- The term of the criterion mentions only the bound variable, which has been drawn. A count and a
cached criterion keep operands of this kind, and their terms speak of those operands. -/
inductive Sound (limit : Nat) : Criterion World → Prop where
  | tree {identity : Nat} {name : Option String} {predicate : Predicate World}
      (closed : predicate.Closed) (drawn : predicate.bound.number < limit) :
      Sound limit ⟨identity, name, predicate, .tree⟩
  | count {identity : Nat} {name : Option String} {predicate : Predicate World}
      {operands : List (Criterion World)} {quantifier : Quantifier} {sum : Term World}
      {threshold : Int64} (closed : predicate.Closed) (drawn : predicate.bound.number < limit)
      (operandsSound : ∀ operand ∈ operands, Sound limit operand)
      (apart : ∀ operand ∈ operands, ¬ operand.bound.same predicate.bound)
      (sums : Sums operands quantifier predicate sum threshold) :
      Sound limit ⟨identity, name, predicate, .count operands quantifier⟩
  | cached {identity : Nat} {name : Option String} {source : Criterion World}
      (sourceSound : Sound limit source) :
      Sound limit ⟨identity, name, source.predicate, .cached source⟩

namespace Sound

variable {limit : Nat} {criterion : Criterion World}

theorem closed (sound : Sound limit criterion) : criterion.predicate.Closed := by
  induction sound with
  | tree closed => exact closed
  | count closed => exact closed
  | cached _ induction => exact induction

theorem drawn (sound : Sound limit criterion) : criterion.bound.number < limit := by
  induction sound with
  | tree _ drawn => exact drawn
  | count _ drawn => exact drawn
  | cached _ induction => exact induction

theorem later (sound : Sound limit criterion) {more : Nat} (ahead : limit ≤ more) :
    Sound more criterion := by
  induction sound with
  | tree closed drawn => exact .tree closed (Nat.lt_of_lt_of_le drawn ahead)
  | count closed drawn _ apart sums induction =>
      exact .count closed (Nat.lt_of_lt_of_le drawn ahead) induction apart sums
  | cached _ induction => exact .cached induction

theorem ofTree (method : criterion.method = .tree) (closed : criterion.predicate.Closed)
    (drawn : criterion.bound.number < limit) : Sound limit criterion := by
  rcases criterion with ⟨identity, name, predicate, how⟩
  change how = .tree at method
  subst method
  exact .tree closed drawn

theorem renamed (sound : Sound limit criterion) (identity : Nat) (name : Option String) :
    Sound limit ⟨identity, name, criterion.predicate, criterion.method⟩ := by
  cases sound with
  | tree closed drawn => exact .tree closed drawn
  | count closed drawn operandsSound apart sums =>
      exact .count closed drawn operandsSound apart sums
  | cached sourceSound => exact .cached sourceSound

theorem cachedAt (sound : Sound limit criterion) (now : Supply) :
    Sound limit (criterion.cached now).1 := by
  unfold Criterion.cached
  split
  · exact sound
  · exact .cached sound

private theorem uncached (sound : Sound limit criterion) : Sound limit criterion.uncached := by
  cases sound with
  | tree closed drawn => exact .tree closed drawn
  | count closed drawn operandsSound apart sums =>
      exact .count closed drawn operandsSound apart sums
  | cached sourceSound => exact sourceSound

end Sound

/-! ## Compositions keep the invariant -/

section

variable {supply after : Supply} {operands : List (Criterion World)} {result : Criterion World}

theorem Composes.apart (composes : Composes supply operands result after)
    {operand : Criterion World} (sound : Sound supply.next operand) :
    ¬ operand.bound.same result.bound := by
  rw [Variable.same_iff, composes.fresh]
  exact Nat.ne_of_lt sound.drawn

theorem Composes.mem_occurrences (composes : Composes supply operands result after)
    (sound : ∀ operand ∈ operands, Sound supply.next operand) {symbol : Variable} :
    symbol ∈ result.body.occurrences ↔
      symbol = result.bound ∧ ∃ operand ∈ operands, operand.body.mentions operand.bound := by
  rw [composes.occurs]
  constructor
  · intro occurrence
    rcases occurrence with ⟨operand, member, occurs⟩
    have apart := composes.apart (sound operand member)
    rcases ((sound operand member).closed.mem_occurrences_bodyOn apart).mp occurs with
      ⟨equal, mentions⟩
    exact ⟨equal, operand, member, mentions⟩
  · intro found
    rcases found with ⟨equal, operand, member, mentions⟩
    have apart := composes.apart (sound operand member)
    exact ⟨operand, member,
      ((sound operand member).closed.mem_occurrences_bodyOn apart).mpr ⟨equal, mentions⟩⟩

theorem Composes.closed (composes : Composes supply operands result after)
    (sound : ∀ operand ∈ operands, Sound supply.next operand) : result.predicate.Closed := by
  intro symbol occurs
  have equal := ((composes.mem_occurrences sound).mp occurs).1
  rw [equal]
  exact result.bound.same_self

theorem Composes.drawn (composes : Composes supply operands result after) :
    result.bound.number < after.next := by
  rw [composes.fresh]
  exact composes.ahead

private theorem Composes.sound (composes : Composes supply operands result after)
    (method : result.method = .tree) (sound : ∀ operand ∈ operands, Sound supply.next operand) :
    Sound after.next result :=
  Sound.ofTree method (composes.closed sound) composes.drawn

private theorem sound_counting {quantifier : Quantifier}
    (made : counting quantifier operands supply = (.ok result, after))
    (sound : ∀ operand ∈ operands, Sound supply.next operand) : Sound after.next result := by
  have composes := composes_counting made
  rcases counting_of_ok made with ⟨_, _, method, sum, threshold, sums⟩
  have closed := composes.closed sound
  have drawn := composes.drawn
  have kept : ∀ operand ∈ operands, Sound after.next operand := fun operand member =>
    (sound operand member).later (Nat.le_of_lt composes.ahead)
  have apart : ∀ operand ∈ operands, ¬ operand.bound.same result.bound := fun operand member =>
    composes.apart (sound operand member)
  rcases result with ⟨identity, name, predicate, how⟩
  change how = .count operands quantifier at method
  subst method
  exact .count closed drawn kept apart sums

end

/-! ## Runs keep the invariant -/

private theorem IsLeaf.sound {result : Criterion World} {after : Supply}
    (leaf : IsLeaf result after) : Sound after.next result :=
  Sound.ofTree leaf.method leaf.closed leaf.drawn

private theorem next_le_cached (criterion : Criterion World) (now : Supply) :
    now.next ≤ (criterion.cached now).2.next := by
  unfold Criterion.cached
  split
  · exact Nat.le_refl now.next
  · exact Nat.le_succ now.next

theorem Reachable.sound {supply : Supply} {criterion : Criterion World}
    (reachable : Reachable supply criterion) : Sound supply.next criterion := by
  induction reachable with
  | later _ ahead induction => exact induction.later ahead
  | compare made => exact (isLeaf_compare made).sound
  | test made => exact (isLeaf_test made).sound
  | custom made => exact (isLeaf_custom made).sound
  | always made => exact (isLeaf_always made).sound
  | ofTerm drawn made => exact (isLeaf_ofTerm drawn made).sound
  | build made => exact (isLeaf_build made).sound
  | combine _ _ made leftSound rightSound =>
      rcases composes_combine made with ⟨composes, method⟩
      refine composes.sound method ?_
      intro operand member
      rcases List.mem_cons.mp member with rfl | member
      · exact leftSound
      · rw [List.mem_singleton.mp member]
        exact rightSound
  | negate _ made induction =>
      rcases composes_negate made with ⟨composes, method⟩
      refine composes.sound method ?_
      intro operand member
      rw [List.mem_singleton.mp member]
      exact induction
  | all _ made induction =>
      rcases composes_all made with ⟨composes, method⟩
      exact composes.sound method induction
  | anyOf _ made induction =>
      rcases composes_anyOf made with ⟨composes, method⟩
      exact composes.sound method induction
  | noneOf _ made induction =>
      rcases composes_noneOf made with ⟨composes, method⟩
      exact composes.sound method induction
  | counting _ made induction => exact sound_counting made induction
  | named _ made induction =>
      cases made
      exact (induction.renamed _ _).later (Nat.le_succ _)
  | @cached supply _ original _ _ made induction =>
      have kept := induction.cachedAt supply
      have ahead := next_le_cached original supply
      rw [made] at kept ahead
      exact kept.later ahead
  | uncached _ induction => exact induction.uncached

/-! A small case: that exactly one of two flags of a sample entity is set. -/

section

open Sample

def flag (start : Nat) (name : String) : Criterion Gallery :=
  (compare (Path.root.member name) .eq (.bool true) ⟨start⟩).1

def oneFlag : Criterion Gallery :=
  let unit (name : String) : Term Gallery :=
    unitFor (.compare (.member (.var ⟨4, "x"⟩) name) .eq (.literal (.bool true)))
  ⟨5, none, ⟨⟨4, "x"⟩, .compare (.add (unit "a") (unit "b")) .eq (.int 1)⟩,
    .count [flag 0 "a", flag 2 "b"] (.exactly 1)⟩

theorem flag_reachable {start : Nat} {supply : Supply} (name : String)
    (ahead : start + 2 ≤ supply.next) : (flag start name).Reachable supply :=
  .later (.compare rfl) ahead

theorem counting_flags :
    counting (.exactly 1) [flag 0 "a", flag 2 "b"] ⟨4⟩ = (.ok oneFlag, ⟨6⟩) := by
  unfold counting
  rw [if_neg (by simp), if_neg (by decide), Fresh.bind_run, rebindAll_run]
  dsimp only
  rw [List.map_map]
  simp only [List.map, Balanced.join?, Balanced.pairUp]
  rfl

theorem oneFlag_reachable : oneFlag.Reachable ⟨6⟩ := by
  refine .counting ?_ counting_flags
  intro operand member
  rcases List.mem_cons.mp member with rfl | member
  · exact flag_reachable "a" (by decide)
  · rw [List.mem_singleton.mp member]
    exact flag_reachable "b" (by decide)

end

end Criterion

/-! ## Builders

What a builder collects is reachable. Its conditional step runs one of two chains of steps, each of
which is made of the steps here. -/

namespace Builder

inductive Reachable : Supply → Builder World → Prop where
  | empty {supply : Supply} : Reachable supply Builder.empty
  | ofCriterion {supply : Supply} {criterion : Criterion World}
      (reachable : criterion.Reachable supply) : Reachable supply (Builder.ofCriterion criterion)
  | later {before after : Supply} {builder : Builder World} (reachable : Reachable before builder)
      (ahead : before.next ≤ after.next) : Reachable after builder
  | and {supply after : Supply} {builder result : Builder World} {criterion : Criterion World}
      (reachable : Reachable supply builder) (operand : criterion.Reachable supply)
      (made : builder.and criterion supply = (result, after)) : Reachable after result
  | or {supply after : Supply} {builder result : Builder World} {criterion : Criterion World}
      (reachable : Reachable supply builder) (operand : criterion.Reachable supply)
      (made : builder.or criterion supply = (result, after)) : Reachable after result
  | andNot {supply after : Supply} {builder result : Builder World} {criterion : Criterion World}
      (reachable : Reachable supply builder) (operand : criterion.Reachable supply)
      (made : builder.andNot criterion supply = (result, after)) : Reachable after result
  | named {supply : Supply} {builder : Builder World} {name : String}
      (reachable : Reachable supply builder) : Reachable supply (builder.named name)

private theorem extend_reachable {supply after : Supply} {builder result : Builder World}
    {criterion current : Criterion World} {connective : Connective}
    {alone : Criterion World → Fresh (Criterion World)}
    (collected : ∀ current, builder.current = some current → current.Reachable supply)
    (operand : criterion.Reachable supply)
    (started : (alone criterion supply).1.Reachable (alone criterion supply).2)
    (made : builder.extend connective alone criterion supply = (result, after))
    (found : result.current = some current) : current.Reachable after := by
  rcases builder with ⟨_ | first, name⟩
  · cases made
    cases found
    exact started
  · cases made
    cases found
    exact .combine (collected first rfl) operand rfl

theorem Reachable.current {supply : Supply} {builder : Builder World}
    (reachable : Reachable supply builder) :
    ∀ current, builder.current = some current → current.Reachable supply := by
  induction reachable with
  | empty => nofun
  | ofCriterion reachable =>
      intro current found
      cases found
      exact reachable
  | later _ ahead induction =>
      intro current found
      exact .later (induction current found) ahead
  | and _ operand made induction =>
      intro current found
      exact extend_reachable induction operand operand made found
  | or _ operand made induction =>
      intro current found
      exact extend_reachable induction operand operand made found
  | andNot _ operand made induction =>
      intro current found
      exact extend_reachable induction operand (.negate operand rfl) made found
  | named _ induction => exact induction

theorem Reachable.build {supply after : Supply} {builder : Builder World}
    {criterion : Criterion World} (reachable : Reachable supply builder)
    (made : builder.build supply = (.ok criterion, after)) : criterion.Reachable after := by
  have collected := reachable.current
  rcases builder with ⟨_ | current, _ | name⟩
  · cases made
  · cases made
  · cases made
    exact collected criterion rfl
  · cases made
    exact .named (collected current rfl) rfl

end Builder

end Criteria

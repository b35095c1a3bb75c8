import Criteria.Proofs.Leaves

/-!
Membership in a list of values.

A test of membership is one leaf with an opaque test, and it reads the path once. A disjunction of
equalities has a leaf for each candidate, and it reads the path again for each of them until one
holds. Where the path can be read again they have the same answer, and no order, repetition or kind
of the candidates changes that.
-/

namespace Criteria

namespace Property

open Criterion (MadeBefore LeavesOf)

variable {World : Type} [Records World] {property : Property} {candidates : List Value}
  {supply : Supply} {one : Criterion World}

private theorem answerOn_oneOf (made : MadeBefore supply (property.oneOf candidates) one)
    (entity : Record) (world : World) :
    one.answerOn entity world =
      (property.path.valueAt entity world).answer.map fun value => candidates.any value.equal := by
  rw [made.leaf_test.answerOn]
  cases (property.path.valueAt entity world).answer <;> rfl

private theorem answerOn_eq (candidate : Value) (now : Supply) (entity : Record) (world : World) :
    (property.eq candidate now).1.answerOn entity world =
      (property.path.valueAt entity world).answer.map (·.equal candidate) := by
  have made := @Criterion.madeBefore World (property.eq candidate) now
  rw [Criterion.Leaf.answerOn (MadeBefore.leaf_compare made)]
  cases (property.path.valueAt entity world).answer <;> rfl

theorem leavesOf_compare {comparison : Comparison} {operands : List (Criterion World)}
    (made : List.Forall₂
      (fun candidate => MadeBefore supply (property.compare comparison candidate))
      candidates operands) :
    LeavesOf supply property.path (fun candidate => (comparison.apply · candidate)) candidates
      operands :=
  made.imp fun _ _ operandMade => operandMade.leaf_compare

/-- Membership is a disjunction of equalities, for any values as candidates.

It fails exactly when reading the path fails, and with that failure. Otherwise it holds if the value
equals one of the candidates, so it never does without any, and candidates that are the same as a
set give the same. Where the path can be read again, a disjunction of the equalities answers what
membership does, and a conjunction of the inequalities what its negation does. -/
theorem membership_is_disjunction (property : Property) (candidates : List Value)
    (supply : Supply) (one : Criterion World)
    (made : MadeBefore supply (property.oneOf candidates) one) :
    (∀ entity world, one.answerOn entity world =
      (property.path.valueAt entity world).answer.map fun value => candidates.any value.equal) ∧
    (∀ entity world now, one.answerOn entity world = .ok true ↔
      ∃ candidate ∈ candidates, (property.eq candidate now).1.answerOn entity world = .ok true) ∧
    (candidates = [] → ∀ entity world value,
      (property.path.valueAt entity world).answer = .ok value →
      one.answerOn entity world = .ok false) ∧
    (∀ others other, MadeBefore supply (property.oneOf others) other →
      (∀ value, value ∈ others ↔ value ∈ candidates) →
      ∀ entity world, other.answerOn entity world = one.answerOn entity world) ∧
    ∀ equals differs : List (Criterion World),
      List.Forall₂ (fun candidate => MadeBefore supply (property.eq candidate)) candidates equals →
      List.Forall₂ (fun candidate => MadeBefore supply (property.ne candidate)) candidates differs →
      candidates ≠ [] →
      ∃ any every, (Criterion.anyOf equals supply).1 = .ok any ∧
        (Criterion.all differs supply).1 = .ok every ∧
        ∀ entity steady result, (property.path.valueAt entity).Settles steady result →
          ∀ world, steady world →
            any.answerOn entity world = one.answerOn entity world ∧
            every.answerOn entity world =
              (Criterion.negate one supply).1.answerOn entity world := by
  refine ⟨answerOn_oneOf made, ?_, ?_, ?_, ?_⟩
  · intro entity world now
    rw [answerOn_oneOf made]
    simp only [answerOn_eq]
    cases (property.path.valueAt entity world).answer with
    | error failure => exact ⟨nofun, nofun⟩
    | ok value =>
        change Except.ok (candidates.any value.equal) = .ok true ↔
          ∃ candidate ∈ candidates, Except.ok (value.equal candidate) = .ok true
        simp only [Except.ok.injEq, List.any_eq_true]
  · rintro rfl entity world value read
    rw [answerOn_oneOf made, read]
    rfl
  · intro others other otherMade sameMembers entity world
    have sameVerdict (value : Value) : others.any value.equal = candidates.any value.equal := by
      rw [Bool.eq_iff_iff, List.any_eq_true, List.any_eq_true]
      simp only [sameMembers]
    rw [answerOn_oneOf otherMade, answerOn_oneOf made]
    simp only [sameVerdict]
  · intro equals differs equalsMade differsMade nonempty
    rcases (leavesOf_compare equalsMade).exists_anyOf nonempty with ⟨any, anyMade, anyCombines⟩
    rcases (leavesOf_compare differsMade).exists_all nonempty with
      ⟨every, everyMade, everyCombines⟩
    refine ⟨any, every, anyMade, everyMade, ?_⟩
    intro entity steady result settles world still
    have read := (settles world still).1
    rw [made.leaf_test.answerOn_negate, answerOn_oneOf made, read]
    cases result with
    | error failure =>
        have fails : ∀ {Answer : Type} (question : Value → Except Failure Answer),
            (property.path.valueAt entity world).answer >>= question = .error failure := by
          intro Answer question
          rw [read]
          rfl
        exact ⟨anyCombines.fails fun _ => fails _, everyCombines.fails fun _ => fails _⟩
    | ok value =>
        have anyAnswer := anyCombines.settles settles (fun _ => rfl) world still
        have everyAnswer := everyCombines.settles settles (fun _ => rfl) world still
        rw [anyAnswer, everyAnswer, List.any_map, List.all_map]
        refine ⟨rfl, congrArg Except.ok ?_⟩
        exact List.not_any_eq_all_not.symm

section

open Sample

def secondFlag : Property :=
  ⟨⟨[.member "b"]⟩⟩

/-- The disjunction reads the flag twice, because it is not missing but unset. -/
theorem secondFlag_missing_or_unset :
    ∃ any, (Criterion.anyOf [(secondFlag.eq .none ⟨3⟩).1, (secondFlag.eq (.bool false) ⟨5⟩).1]
        ⟨11⟩).1 = .ok any ∧
      any.answerOn ⟨0⟩ Criterion.twoFlags = .ok true := by
  have made : MadeBefore ⟨11⟩ (secondFlag.oneOf [.none, .bool false])
    (secondFlag.oneOf [.none, .bool false] ⟨0⟩ : Criterion Gallery × Supply).1 :=
    ⟨⟨0⟩, rfl, by decide⟩
  have equals : List.Forall₂ (fun candidate => @MadeBefore Gallery ⟨11⟩ (secondFlag.eq candidate))
      [.none, .bool false] [(secondFlag.eq .none ⟨3⟩).1, (secondFlag.eq (.bool false) ⟨5⟩).1] :=
    .cons ⟨⟨3⟩, rfl, by decide⟩ (.cons ⟨⟨5⟩, rfl, by decide⟩ .nil)
  have differs : List.Forall₂ (fun candidate => @MadeBefore Gallery ⟨11⟩ (secondFlag.ne candidate))
      [.none, .bool false] [(secondFlag.ne .none ⟨7⟩).1, (secondFlag.ne (.bool false) ⟨9⟩).1] :=
    .cons ⟨⟨7⟩, rfl, by decide⟩ (.cons ⟨⟨9⟩, rfl, by decide⟩ .nil)
  rcases membership_is_disjunction secondFlag _ ⟨11⟩ _ made with ⟨answers, _, _, _, combined⟩
  rcases combined _ _ equals differs (List.cons_ne_nil _ _) with ⟨any, _, anyMade, _, same⟩
  have settles : (secondFlag.path.valueAt ⟨0⟩).Settles (· = Criterion.twoFlags)
      (.ok (.bool false)) := Probe.settles_of_unchanged rfl
  refine ⟨any, anyMade, ?_⟩
  rw [(same ⟨0⟩ _ _ settles _ rfl).1, answers]
  rfl

end

end Property

end Criteria

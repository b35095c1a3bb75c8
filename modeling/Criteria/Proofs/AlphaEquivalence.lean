import Criteria.Proofs.Compilation
import Criteria.Proofs.Composition
import Criteria.Proofs.Renaming
import Criteria.Proofs.Sameness

/-!
Equality of predicates up to the bound variable.

Two predicates are compared by moving the second one to the variable of the first. If that variable
occurs in the second predicate already, as a foreign variable, the move captures it: afterwards it
stands for the entity. Such predicates may pass for equal although the one is about something else
than the other, and asked the other way round they differ. Without capture the comparison is
symmetric, and equal predicates may stand in for each other. Between closed predicates nothing is
captured.
-/

namespace Criteria

variable {World : Type}

/-! ## Outlines of moved terms -/

namespace Term

private theorem outline_rebind (old new : Variable) (term : Term World) :
    (term.rebind old new).outline = term.outline.rebind old.unnamed new.unnamed := by
  simp only [outline, rebind_eq_relabel, relabel_relabel]
  refine relabel_congr (by rfl) (by rfl) ?_
  intro symbol occurs
  change (symbol.renamed old new).unnamed = symbol.unnamed.renamed old.unnamed new.unnamed
  unfold Variable.renamed
  have same : symbol.unnamed.same old.unnamed = symbol.same old := rfl
  rw [same]
  split <;> rfl

theorem named_outline (term : Term World) :
    ∀ symbol ∈ term.outline.occurrences, symbol.NamedBy fun _ => "" := by
  intro symbol occurs
  rw [outline, occurrences_relabel] at occurs
  rcases List.mem_map.mp occurs with ⟨found, _, rfl⟩
  rfl

theorem mentions_outline (symbol : Variable) (term : Term World) :
    term.outline.mentions symbol = term.mentions symbol := by
  rw [Bool.eq_iff_iff, mentions_iff, mentions_iff, outline, occurrences_relabel]
  constructor
  · rintro ⟨_, occurs, same⟩
    rcases List.mem_map.mp occurs with ⟨found, member, rfl⟩
    exact ⟨found, member, same⟩
  · rintro ⟨found, member, same⟩
    exact ⟨_, List.mem_map_of_mem member, same⟩

theorem not_mentions_rebind {old new : Variable} (different : ¬ old.same new)
    (term : Term World) : ¬ (term.rebind old new).mentions old := by
  intro mentioned
  rcases mentions_iff.mp mentioned with ⟨symbol, occurs, same⟩
  rw [occurrences_rebind] at occurs
  rcases List.mem_map.mp occurs with ⟨found, _, rfl⟩
  by_cases own : found.same old
  · rw [Variable.renamed_of_same new own] at same
    exact different (Variable.same_symm same)
  · rw [Variable.renamed_of_not_same new own] at same
    exact own same

private theorem ListedIn.rebind {register : Register World} {term : Term World}
    (listed : term.ListedIn register) (old : Variable) {new : Variable}
    (newNamed : new.NamedBy register.name) : (term.rebind old new).ListedIn register := by
  unfold ListedIn at listed ⊢
  have looked : new = ⟨new.number, register.name new.number⟩ :=
    newNamed.eq_of_same rfl (Variable.same_iff.mpr rfl)
  calc (term.rebind old new).relabel register.entries
      = (term.relabel register.entries).rebind old new := by
        simp only [rebind_eq_relabel, relabel_relabel]
        refine relabel_congr (by rfl) (by rfl) ?_
        intro symbol occurs
        change register.entries.symbol (symbol.renamed old new) =
          (register.entries.symbol symbol).renamed old new
        unfold Variable.renamed
        have same : (register.entries.symbol symbol).same old = symbol.same old := rfl
        rw [same]
        split
        · exact looked.symm
        · rfl
    _ = term.rebind old new := by rw [listed]

end Term

/-! ## Capture -/

namespace Predicate

variable {left right : Predicate World}

theorem bodyOn_of_same {predicate : Predicate World} {shared : Variable}
    (same : predicate.bound.same shared) : predicate.bodyOn shared = predicate.body := by
  rw [bodyOn, Term.substitute, same, Bool.true_or, if_pos rfl]

theorem isFloatFree_bodyOn (predicate : Predicate World) (shared : Variable) :
    (predicate.bodyOn shared).isFloatFree = predicate.body.isFloatFree := by
  by_cases apart : predicate.bound.same shared
  · rw [bodyOn_of_same apart]
  · rw [bodyOn_eq_rebind apart, Term.rebind_eq_relabel, Term.isFloatFree_relabel]

theorem alphaSame_eq (left right : Predicate World) :
    left.alphaSame right = left.body.same (right.bodyOn left.bound) := by
  unfold alphaSame
  split
  case isTrue same => rw [bodyOn_of_same (Variable.same_symm same)]
  case isFalse => rfl

/-- The variable of the first predicate does not occur in the second, where it would be captured. -/
def Uncaptured (left right : Predicate World) : Prop :=
  left.bound.same right.bound ∨ ¬ right.body.mentions left.bound

private theorem Closed.uncaptured (closed : right.Closed) (left : Predicate World) :
    left.Uncaptured right := by
  by_cases mentioned : right.body.mentions left.bound
  · rcases Term.mentions_iff.mp mentioned with ⟨found, occurs, same⟩
    exact .inl (Variable.same_trans (Variable.same_symm same) (closed found occurs))
  · exact .inr mentioned

section

variable (leftFree : left.body.isFloatFree) (rightFree : right.body.isFloatFree)

include leftFree rightFree

theorem alphaSame_iff_outline :
    left.alphaSame right ↔ left.body.outline = (right.bodyOn left.bound).outline := by
  rw [alphaSame_eq]
  refine Term.same_iff_outline leftFree ?_
  rw [isFloatFree_bodyOn, rightFree]

/-- The second variable was moved away, so the first predicate cannot mention it. -/
theorem uncaptured_of_alphaSame (alpha : left.alphaSame right) : right.Uncaptured left := by
  by_cases apart : right.bound.same left.bound
  · exact .inl apart
  · refine .inr ?_
    have outlines := (alphaSame_iff_outline leftFree rightFree).mp alpha
    rw [← Term.mentions_outline, outlines, Term.mentions_outline, bodyOn_eq_rebind apart]
    exact Term.not_mentions_rebind apart right.body

private theorem alphaSame_symm (alpha : left.alphaSame right) (uncaptured : left.Uncaptured right) :
    right.alphaSame left := by
  have outlines := (alphaSame_iff_outline leftFree rightFree).mp alpha
  refine (alphaSame_iff_outline rightFree leftFree).mpr ?_
  by_cases apart : left.bound.same right.bound
  · rw [bodyOn_of_same (Variable.same_symm apart)] at outlines
    rw [bodyOn_of_same apart, outlines]
  · have apart' : ¬ right.bound.same left.bound := fun same => apart (Variable.same_symm same)
    rw [bodyOn_eq_rebind apart', Term.outline_rebind] at outlines
    have fresh : ∀ symbol ∈ right.body.outline.occurrences,
        ¬ symbol.same left.bound.unnamed := by
      intro symbol occurs same
      have mentioned : right.body.outline.mentions left.bound :=
        Term.mentions_iff.mpr ⟨symbol, occurs, same⟩
      rw [Term.mentions_outline] at mentioned
      exact uncaptured.resolve_left apart mentioned
    calc right.body.outline
        = right.body.outline.rebind right.bound.unnamed right.bound.unnamed :=
          (Term.rebind_self (by rfl) (Term.named_outline right.body)).symm
      _ = (right.body.outline.rebind right.bound.unnamed left.bound.unnamed).rebind
            left.bound.unnamed right.bound.unnamed := (Term.rebind_rebind _ fresh).symm
      _ = left.body.outline.rebind left.bound.unnamed right.bound.unnamed := by rw [outlines]
      _ = (left.body.rebind left.bound right.bound).outline :=
          (Term.outline_rebind _ _ left.body).symm
      _ = (left.bodyOn right.bound).outline := by rw [bodyOn_eq_rebind apart]

end

/-- The bound variable and the body are those of the register. -/
def ListedIn (register : Register World) (predicate : Predicate World) : Prop :=
  predicate.bound.NamedBy register.name ∧ predicate.body.ListedIn register

section

variable {register : Register World}
variable (leftFree : left.body.isFloatFree) (rightFree : right.body.isFloatFree)
variable (leftListed : left.ListedIn register) (rightListed : right.ListedIn register)

include leftFree rightFree leftListed rightListed

private theorem body_eq_of_alphaSame (alpha : left.alphaSame right) :
    left.body = right.bodyOn left.bound := by
  rw [alphaSame_eq] at alpha
  refine Term.eq_of_same leftFree ?_ leftListed.2 ?_ alpha
  · rw [isFloatFree_bodyOn, rightFree]
  · by_cases apart : right.bound.same left.bound
    · rw [bodyOn_of_same apart]
      exact rightListed.2
    · rw [bodyOn_eq_rebind apart]
      exact rightListed.2.rebind right.bound leftListed.1

variable [Records World]

private theorem observed_evaluate_of_alphaSame (alpha : left.alphaSame right)
    (uncaptured : left.Uncaptured right) (entity : Record) :
    (left.evaluate entity).observed Failure.withoutVariables =
      (right.evaluate entity).observed Failure.withoutVariables := by
  have body := body_eq_of_alphaSame leftFree rightFree leftListed rightListed alpha
  rw [evaluate, evaluate, body]
  by_cases apart : right.bound.same left.bound
  · rw [bodyOn_of_same apart, rightListed.1.eq_of_same leftListed.1 apart]
  · rw [bodyOn_eq_rebind apart]
    refine Term.observed_holds_rebind _ (fun _ _ => rfl) ?_
    intro symbol occurs
    by_cases own : symbol.same right.bound
    · exact .inl own
    · refine .inr ⟨?_, rfl⟩
      intro same
      refine uncaptured.resolve_left ?_ (Term.mentions_iff.mpr ⟨symbol, occurs, same⟩)
      exact fun same => apart (Variable.same_symm same)

end

/-- The comparison up to the bound variable is symmetric exactly where nothing is captured, and
there equal predicates are interchangeable: they evaluate alike, and so do the closures compiled for
them, up to the variables that failures name. Closed predicates capture nothing. -/
theorem alphaSame_laws (leftFree : left.body.isFloatFree) (rightFree : right.body.isFloatFree) :
    (left.alphaSame right = right.alphaSame left ↔
      (left.alphaSame right → left.Uncaptured right) ∧
      (right.alphaSame left → right.Uncaptured left)) ∧
    (∀ register : Register World, left.ListedIn register → right.ListedIn register →
      left.alphaSame right → left.Uncaptured right → ∀ [Records World] (entity : Record),
        (left.evaluate entity).observed Failure.withoutVariables =
          (right.evaluate entity).observed Failure.withoutVariables ∧
        (left.compile entity).observed Failure.withoutVariables =
          (right.compile entity).observed Failure.withoutVariables) ∧
    (left.Closed → right.Closed → left.Uncaptured right ∧ right.Uncaptured left) := by
  refine ⟨⟨?_, ?_⟩, ?_, ?_⟩
  · intro symmetric
    constructor
    · intro alpha
      rw [symmetric] at alpha
      exact uncaptured_of_alphaSame rightFree leftFree alpha
    · intro alpha
      rw [← symmetric] at alpha
      exact uncaptured_of_alphaSame leftFree rightFree alpha
  · rintro ⟨forth, back⟩
    rw [Bool.eq_iff_iff]
    constructor
    · intro alpha
      exact alphaSame_symm leftFree rightFree alpha (forth alpha)
    · intro alpha
      exact alphaSame_symm rightFree leftFree alpha (back alpha)
  · intro register leftListed rightListed alpha uncaptured _ entity
    have alike := observed_evaluate_of_alphaSame leftFree rightFree leftListed rightListed alpha
      uncaptured entity
    rw [compile_eq_evaluate, compile_eq_evaluate]
    exact ⟨alike, alike⟩
  · intro leftClosed rightClosed
    exact ⟨rightClosed.uncaptured left, leftClosed.uncaptured right⟩

section

open Sample

def flagsOf (bound other : Nat) : Predicate Gallery :=
  ⟨⟨bound, "x"⟩, .and (Criterion.flag bound "a").body (Criterion.flag other "b").body⟩

theorem flagsOf_interchangeable :
    (flagsOf 0 7).alphaSame (flagsOf 2 7) = (flagsOf 2 7).alphaSame (flagsOf 0 7) ∧
      ((flagsOf 0 7).evaluate ⟨0⟩).observed Failure.withoutVariables =
        ((flagsOf 2 7).evaluate ⟨0⟩).observed Failure.withoutVariables := by
  have laws := @alphaSame_laws Gallery (flagsOf 0 7) (flagsOf 2 7) (by decide) (by decide)
  have forth : (flagsOf 0 7).Uncaptured (flagsOf 2 7) := .inr (by decide)
  have back : (flagsOf 2 7).Uncaptured (flagsOf 0 7) := .inr (by decide)
  refine ⟨laws.1.mpr ⟨fun _ => forth, fun _ => back⟩, ?_⟩
  let register : Register Gallery := ⟨fun _ => "x", fun _ _ => pure true, fun _ _ => pure true⟩
  exact (laws.2.1 register ⟨rfl, rfl⟩ ⟨rfl, rfl⟩ (by decide) forth ⟨0⟩).1

/-- The foreign variable of the second predicate is the bound one of the first, and the move takes
the one for the other. So they pass for equal, though only in this order, and the first gives an
answer where the second fails. -/
theorem captured_flag_passes_for_equal :
    (flagsOf 0 0).body.isFloatFree ∧ (flagsOf 2 0).body.isFloatFree ∧
      (flagsOf 0 0).alphaSame (flagsOf 2 0) ∧ ¬ (flagsOf 2 0).alphaSame (flagsOf 0 0) ∧
      ((flagsOf 0 0).evaluate ⟨0⟩ Criterion.twoFlags).answer = .ok false ∧
      ((flagsOf 2 0).evaluate ⟨0⟩ Criterion.twoFlags).answer =
        .error (.foreignVariable ⟨2, "x"⟩ ⟨0, "x"⟩) :=
  ⟨by decide, by decide, by decide, by decide, rfl, rfl⟩

end

end Predicate

end Criteria

import Criteria.Criterion.Binary
import Criteria.Criterion.Many
import Criteria.Proofs.Balanced
import Criteria.Proofs.Substitution

/-!
What each construction makes of its operands.

Every composition draws a new variable and moves the operands onto it. That is said once, as a
relation between the operands and the result, and each combinator is shown to be of that kind. Later
proofs use the relation and do not unfold a combinator again.
-/

namespace Criteria

variable {World : Type}

/-! ## Predicates on another variable -/

namespace Predicate

/-- No variable occurs but the bound one. -/
def Closed (predicate : Predicate World) : Prop :=
  ∀ symbol ∈ predicate.body.occurrences, symbol.same predicate.bound

variable {predicate : Predicate World} {shared : Variable}

theorem bodyOn_eq_rebind (apart : ¬ predicate.bound.same shared) :
    predicate.bodyOn shared = predicate.body.rebind predicate.bound shared :=
  Term.substitute_eq_rebind apart predicate.body

theorem Closed.mem_occurrences_bodyOn (closed : predicate.Closed)
    (apart : ¬ predicate.bound.same shared) {symbol : Variable} :
    symbol ∈ (predicate.bodyOn shared).occurrences ↔
      symbol = shared ∧ predicate.body.mentions predicate.bound := by
  rw [bodyOn_eq_rebind apart, Term.occurrences_rebind, List.mem_map, Term.mentions_iff]
  constructor
  · intro moved
    rcases moved with ⟨found, member, rfl⟩
    have same := closed found member
    exact ⟨Variable.renamed_of_same shared same, found, member, same⟩
  · intro mentioned
    rcases mentioned with ⟨rfl, found, member, same⟩
    exact ⟨found, member, Variable.renamed_of_same symbol same⟩

theorem Closed.agrees_bodyOn [Records World] (closed : predicate.Closed)
    (apart : ¬ predicate.bound.same shared) (entity : Record) :
    ((predicate.bodyOn shared).holds ⟨shared, entity⟩).Agrees (predicate.evaluate entity) := by
  rw [bodyOn_eq_rebind apart]
  exact Term.observed_holds_rebind Failure.unnamed (fun _ _ => rfl) fun symbol occurs =>
    .inl (closed symbol occurs)

end Predicate

/-! ## Occurrences in joins and paths -/

namespace Term

/-- A join that keeps every occurrence of its two terms, in their order. -/
def Collects (join : Term World → Term World → Term World) : Prop :=
  ∀ left right, (join left right).occurrences = left.occurrences ++ right.occurrences

theorem occurrences_join? {join : Term World → Term World → Term World} (collects : Collects join)
    {terms : List (Term World)} {whole : Term World}
    (joined : Balanced.join? join terms = some whole) :
    whole.occurrences = terms.flatMap occurrences := by
  have appends : Balanced.Appends (fun (term : Term World) (segment : List (Term World)) =>
      term.occurrences = segment.flatMap occurrences) join := by
    intro left right first second leftStands rightStands
    rw [collects, leftStands, rightStands, List.flatMap_append]
  rw [← List.map_id terms] at joined
  exact Balanced.standsFor_join? appends (fun term _ => by simp) joined

end Term

private theorem Connective.mem_occurrences_join {connective : Connective} {left right : Term World}
    {symbol : Variable} :
    symbol ∈ (connective.join left right).occurrences ↔
      symbol ∈ left.occurrences ∨ symbol ∈ right.occurrences := by
  cases connective <;> simp only [join, Term.occurrences, List.mem_append, or_self]

namespace Path

private theorem occurrences_apply (target : Term World) (step : PathStep) :
    (step.apply target).occurrences = target.occurrences := by
  cases step with
  | member name => rfl
  | call method arguments =>
      have literals : Term.occurrencesInAll (arguments.map (@Term.literal World)) = [] := by
        induction arguments with
        | nil => rfl
        | cons value values induction => simpa [Term.occurrencesInAll, Term.occurrences]
      simp [PathStep.apply, Term.occurrences, literals]

theorem occurrences_bind (path : Path) (symbol : Variable) :
    (path.bind symbol : Term World).occurrences = [symbol] := by
  have walked : ∀ (steps : List PathStep) (target : Term World),
      (steps.foldl PathStep.apply target).occurrences = target.occurrences := by
    intro steps
    induction steps with
    | nil => intro target; rfl
    | cons step steps induction =>
        intro target
        rw [List.foldl_cons, induction, occurrences_apply]
  rw [bind, walked, Term.occurrences]

end Path

namespace Criterion

/-! ## Leaves -/

section

variable {supply after : Supply} {result : Criterion World}

structure IsLeaf (result : Criterion World) (after : Supply) : Prop where
  method : result.method = .tree
  closed : result.predicate.Closed
  drawn : result.bound.number < after.next

theorem isLeaf_leaf {make : Variable → Term World}
    (made : leaf make supply = (result, after))
    (closed : ∀ bound, (Predicate.mk bound (make bound)).Closed) : IsLeaf result after := by
  cases made
  exact ⟨rfl, closed _, Nat.lt_add_of_pos_right (by decide : 0 < 2)⟩

theorem isLeaf_compare {path : Path} {comparison : Comparison} {value : Value}
    (made : compare path comparison value supply = (result, after)) : IsLeaf result after := by
  refine isLeaf_leaf made ?_
  intro bound symbol occurs
  rw [Term.occurrences, path.occurrences_bind, Term.occurrences, List.append_nil,
    List.mem_singleton] at occurs
  rw [occurs]
  exact bound.same_self

theorem isLeaf_test {path : Path} {operator : String} {operand : Option Value}
    {run : Value → Probe World Bool}
    (made : test path operator operand run supply = (result, after)) : IsLeaf result after := by
  rw [test, Fresh.bind_run] at made
  refine isLeaf_leaf made ?_
  intro bound symbol occurs
  rw [Term.occurrences, path.occurrences_bind, List.mem_singleton] at occurs
  rw [occurs]
  exact bound.same_self

theorem isLeaf_custom {label : String} {run : Record → Probe World Bool}
    (made : custom label run supply = (result, after)) : IsLeaf result after := by
  rw [custom, Fresh.bind_run] at made
  refine isLeaf_leaf made ?_
  intro bound symbol occurs
  rw [Term.occurrences, List.mem_singleton] at occurs
  rw [occurs]
  exact bound.same_self

theorem isLeaf_always {verdict : Bool} (made : always verdict supply = (result, after)) :
    IsLeaf result after := by
  refine isLeaf_leaf made ?_
  intro bound symbol occurs
  cases occurs

theorem ofTerm_of_closed {bound : Variable} {term : Term World}
    (closed : (Predicate.mk bound term).Closed) :
    ofTerm bound term supply =
      (.ok ⟨supply.next, none, ⟨bound, term⟩, .tree⟩, ⟨supply.next + 1⟩) := by
  have absent : term.freeVariables.find? (!·.same bound) = none := by
    rw [List.find?_eq_none]
    intro symbol member
    simpa using closed symbol (Term.mem_occurrences_of_mem_freeVariables member)
  rw [ofTerm, absent]
  rfl

theorem ofTerm_of_not_closed {bound : Variable} {term : Term World}
    (unclosed : ¬ (Predicate.mk bound term).Closed) :
    ∃ found ∈ term.occurrences, ¬ found.same bound ∧
      (∀ symbol ∈ term.occurrences, ¬ symbol.same bound → found.number ≤ symbol.number) ∧
      ofTerm bound term supply = (.error (.unboundVariable bound found), supply) := by
  cases first : term.freeVariables.find? (!·.same bound) with
  | none =>
      refine absurd ?_ unclosed
      intro symbol occurs
      rcases Variable.exists_same_mem_sorted occurs with ⟨listed, member, same⟩
      have bounded : listed.same bound := by simpa using List.find?_eq_none.mp first listed member
      exact Variable.same_trans (Variable.same_symm same) bounded
  | some found =>
      have stable : ∀ left right : Variable, left.same right →
          (!left.same bound) = !right.same bound := by
        intro left right same
        rw [Variable.same, Variable.same, Variable.same_iff.mp same]
      rcases Variable.find?_sorted stable first with ⟨occurs, foreign, least⟩
      refine ⟨found, occurs, by simpa using foreign, ?_, ?_⟩
      · intro symbol member other
        exact least symbol member (by simpa using other)
      · rw [ofTerm, first]
        rfl

theorem isLeaf_ofTerm {bound : Variable} {term : Term World} (drawn : bound.number < supply.next)
    (made : ofTerm bound term supply = (.ok result, after)) : IsLeaf result after := by
  by_cases closed : (Predicate.mk bound term).Closed
  · rw [ofTerm_of_closed closed] at made
    cases made
    exact ⟨rfl, closed, Nat.lt_succ_of_lt drawn⟩
  · rcases ofTerm_of_not_closed closed with ⟨found, _, _, _, refused⟩
    rw [refused] at made
    cases made

theorem isLeaf_build {make : Variable → Term World}
    (made : build make supply = (.ok result, after)) : IsLeaf result after := by
  rw [build, Fresh.bind_run] at made
  exact isLeaf_ofTerm (Nat.lt_succ_self supply.next) made

end

/-! ## Compositions -/

/-- The result is over a new variable, which occurs where the operands have their own. -/
structure Composes (supply : Supply) (operands : List (Criterion World))
    (result : Criterion World) (after : Supply) : Prop where
  fresh : result.bound.number = supply.next
  ahead : supply.next < after.next
  occurs : ∀ symbol, symbol ∈ result.body.occurrences ↔
    ∃ operand ∈ operands, symbol ∈ (operand.predicate.bodyOn result.bound).occurrences

section

variable {supply after : Supply} {operands : List (Criterion World)} {result : Criterion World}

theorem composes_combine {connective : Connective} {left right : Criterion World}
    (made : combine connective left right supply = (result, after)) :
    Composes supply [left, right] result after ∧ result.method = .tree := by
  cases made
  refine ⟨⟨rfl, Nat.lt_add_of_pos_right (by decide : 0 < 2), ?_⟩, rfl⟩
  intro symbol
  simp [body, bound, Connective.mem_occurrences_join]

theorem composes_negate {operand : Criterion World}
    (made : negate operand supply = (result, after)) :
    Composes supply [operand] result after ∧ result.method = .tree := by
  cases made
  refine ⟨⟨rfl, Nat.lt_add_of_pos_right (by decide : 0 < 2), ?_⟩, rfl⟩
  intro symbol
  simp [body, bound, Term.occurrences]

/-! A composition of many has one balanced tree over the new variable. There is always one, because
an empty list of operands is refused before. -/

theorem rebindAll_run (first : Criterion World) (rest : List (Criterion World)) :
    rebindAll (first :: rest) supply =
      ((⟨supply.next, first.bound.name⟩,
        (first :: rest).map (·.predicate.bodyOn ⟨supply.next, first.bound.name⟩)),
        ⟨supply.next + 1⟩) :=
  rfl

theorem chain_of_ok {combinator : String} {join : Term World → Term World → Term World}
    {predicate : Predicate World}
    (made : chain combinator join operands supply = (.ok predicate, after)) :
    predicate.bound.number = supply.next ∧ after.next = supply.next + 1 ∧
      Balanced.join? join (operands.map (·.predicate.bodyOn predicate.bound)) =
        some predicate.body := by
  cases operands with
  | nil => cases made
  | cons first rest =>
      simp only [chain, List.isEmpty_cons, Bool.false_eq_true, if_false, Fresh.bind_run,
        rebindAll_run] at made
      cases joined : Balanced.join? join ((first :: rest).map
          (·.predicate.bodyOn ⟨supply.next, first.bound.name⟩)) with
      | none =>
          rw [joined] at made
          cases made
      | some whole =>
          rw [joined] at made
          cases made
          exact ⟨rfl, rfl, joined⟩

theorem ofChain_of_ok {combinator : String} {join : Term World → Term World → Term World}
    {make : Term World → Term World}
    (made : (do ofChain make (← chain combinator join operands)) supply = (.ok result, after)) :
    ∃ predicate between, chain combinator join operands supply = (.ok predicate, between) ∧
      result.predicate = ⟨predicate.bound, make predicate.body⟩ ∧ result.method = .tree ∧
      after.next = between.next + 1 := by
  rcases equal : chain combinator join operands supply with ⟨refusal | predicate, between⟩
  · rw [Fresh.bind_run, equal] at made
    cases made
  · rw [Fresh.bind_run, equal] at made
    cases made
    exact ⟨predicate, between, rfl, rfl, rfl, rfl⟩

theorem composes_ofChain {combinator : String} {join : Term World → Term World → Term World}
    {make : Term World → Term World} (collects : Term.Collects join)
    (kept : ∀ term, (make term).occurrences = term.occurrences)
    (made : (do ofChain make (← chain combinator join operands)) supply = (.ok result, after)) :
    Composes supply operands result after ∧ result.method = .tree := by
  rcases ofChain_of_ok made with ⟨predicate, between, chained, equal, method, next⟩
  rcases chain_of_ok chained with ⟨fresh, between_next, joined⟩
  refine ⟨⟨?_, by omega, ?_⟩, method⟩
  · rw [bound, equal, fresh]
  · intro symbol
    rw [body, bound, equal, kept, Term.occurrences_join? collects joined, List.flatMap_map,
      List.mem_flatMap]

theorem composes_all (made : all operands supply = (.ok result, after)) :
    Composes supply operands result after ∧ result.method = .tree :=
  composes_ofChain (fun _ _ => rfl) (fun _ => rfl) made

theorem composes_anyOf (made : anyOf operands supply = (.ok result, after)) :
    Composes supply operands result after ∧ result.method = .tree :=
  composes_ofChain (fun _ _ => rfl) (fun _ => rfl) made

theorem composes_noneOf (made : noneOf operands supply = (.ok result, after)) :
    Composes supply operands result after ∧ result.method = .tree :=
  composes_ofChain (fun _ _ => rfl) (fun term => (rfl : term.not.occurrences = _)) made

def Sums (operands : List (Criterion World)) (quantifier : Quantifier)
    (predicate : Predicate World) (sum : Term World) (threshold : Int64) : Prop :=
  Balanced.join? Term.add
      (operands.map fun operand => unitFor (operand.predicate.bodyOn predicate.bound)) =
    some sum ∧
  Number.toInt64? quantifier.threshold = some threshold ∧
  predicate.body = .compare sum quantifier.comparison (.int threshold)

def firstName : List (Criterion World) → String
  | first :: _ => first.bound.name
  | [] => Fresh.defaultName

theorem counting_of_ok {quantifier : Quantifier}
    (made : counting quantifier operands supply = (.ok result, after)) :
    result.bound = ⟨supply.next, firstName operands⟩ ∧ after.next = supply.next + 2 ∧
      result.method = .count operands quantifier ∧
      ∃ sum threshold, Sums operands quantifier result.predicate sum threshold := by
  cases operands with
  | nil => cases made
  | cons first rest =>
      unfold counting at made
      rw [if_neg (by simp)] at made
      split at made
      · cases made
      · -- The join stays folded under `rw`; `simp` would open its recursion.
        rw [Fresh.bind_run, rebindAll_run] at made
        dsimp only at made
        cases joined : Balanced.join? Term.add (((first :: rest).map
            (·.predicate.bodyOn ⟨supply.next, first.bound.name⟩)).map unitFor) with
        | none =>
            rw [joined] at made
            cases made
        | some sum =>
            rw [joined] at made
            cases exact : Number.toInt64? quantifier.threshold with
            | none =>
                rw [exact] at made
                cases made
            | some threshold =>
                rw [exact] at made
                cases made
                rw [List.map_map] at joined
                exact ⟨rfl, rfl, rfl, sum, threshold, joined, exact, rfl⟩

theorem composes_counting {quantifier : Quantifier}
    (made : counting quantifier operands supply = (.ok result, after)) :
    Composes supply operands result after := by
  rcases counting_of_ok made with ⟨fresh, next, _, sum, threshold, joined, _, equal⟩
  refine ⟨congrArg Variable.number fresh, by omega, ?_⟩
  intro symbol
  have counted : sum.occurrences = _ := Term.occurrences_join? (fun _ _ => rfl) joined
  rw [body, equal, Term.int, Term.occurrences, Term.occurrences, List.append_nil, counted,
    List.flatMap_map, List.mem_flatMap]
  simp [unitFor, Term.int, Term.occurrences, bound]

end

end Criterion

end Criteria

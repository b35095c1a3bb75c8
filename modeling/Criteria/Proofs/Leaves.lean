import Mathlib.Data.List.Forall2
import Criteria.Proofs.BoundPath
import Criteria.Proofs.Counting
import Criteria.Property

/-!
Leaves: criteria that ask one question about the value at a path.

A leaf reads the path and asks. Where it is composed with other leaves it is moved to a variable of
the same name, so it reads and asks the same there, and even a failure about a bare variable is the
same. Chains and counts of leaves therefore do exactly what their operands do, one after the other,
and what they answer follows from what the single leaves answer.
-/

namespace Criteria

variable {World : Type}

/-! ## Paths -/

namespace PathStep

private theorem rebind_apply (step : PathStep) (target : Term World) (old new : Variable) :
    (step.apply target).rebind old new = step.apply (target.rebind old new) := by
  cases step with
  | member name => rfl
  | call method arguments =>
      have literals : ((arguments.map (@Term.literal World)).map (Term.rebind old new)) =
          arguments.map Term.literal := by
        rw [List.map_map]
        exact List.map_congr_left fun argument _ => rfl
      rw [apply, Term.rebind, Term.rebindAll_eq_map, literals]
      rfl

end PathStep

namespace Path

theorem rebind_bind (path : Path) (old new : Variable) :
    (path.bind old : Term World).rebind old new = path.bind new := by
  have moved : ∀ (steps : List PathStep) (target : Term World),
      (steps.foldl PathStep.apply target).rebind old new =
        steps.foldl PathStep.apply (target.rebind old new) := by
    intro steps
    induction steps with
    | nil => intro target; rfl
    | cons step steps induction =>
        intro target
        rw [List.foldl_cons, induction, PathStep.rebind_apply, List.foldl_cons]
  rw [bind, moved, Term.rebind, Variable.renamed_of_same new old.same_self, bind]

variable [Records World]

def valueAt (path : Path) (entity : Record) : Probe World Value :=
  if path.isRoot then Probe.fail (.bareVariable Fresh.defaultName)
  else walk path.steps (.record entity)

theorem value_bind_of_named (path : Path) {symbol : Variable}
    (named : symbol.name = Fresh.defaultName) (entity : Record) :
    (path.bind symbol : Term World).value ⟨symbol, entity⟩ = path.valueAt entity := by
  rw [valueAt]
  split
  case isTrue root =>
    rw [isRoot, List.isEmpty_iff] at root
    rw [bind, root, List.foldl_nil, Term.value, Scope.expect_self, pure_bind, named]
  case isFalse nonempty =>
    rw [isRoot, List.isEmpty_iff] at nonempty
    exact value_bind nonempty symbol entity

end Path

namespace Probe

variable {Answer : Type}

def given (touched : List Touch) (result : Except Failure Answer) : Probe World Answer :=
  fun world => ⟨result, touched, world⟩

theorem ofExcept_eq_given (result : Except Failure Answer) :
    (ofExcept result : Probe World Answer) = given [] result := by
  cases result <;> rfl

private theorem touch_ofExcept_eq_given (what : Touch) (result : Except Failure Answer) :
    (do touch what; ofExcept result : Probe World Answer) = given [what] result := by
  funext world
  rw [touch_bind, ofExcept_eq_given]
  rfl

private theorem settles_given {steady : World → Prop} (touched : List Touch)
    (result : Except Failure Answer) : (given touched result).Settles steady result :=
  fun _ still => ⟨rfl, still⟩

private theorem answer_mapM_of_failed {Item : Type} {run : Item → Probe World Answer} {item : Item}
    {items : List Item} {world : World} {failure : Failure}
    (failed : (run item world).answer = .error failure) :
    ((item :: items).mapM run world).answer = .error failure := by
  rw [mapM_cons_eq]
  rcases ran : run item world with ⟨answer, touches, after⟩
  rw [ran] at failed
  cases failed
  rw [bind_of_error ran]

/-- Items that settle on answers give these answers when they are run in turn. -/
theorem exists_answered_of_settles {Item Cause : Type} {steady : World → Prop}
    {run : Item → Probe World Answer} {own : Cause → Answer} {causes : List Cause}
    {items : List Item}
    (settles : List.Forall₂ (fun cause item => (run item).Settles steady (.ok (own cause)))
      causes items) {world : World} (still : steady world) :
    ∃ touches after, Answered run items world (causes.map own) touches after := by
  induction settles generalizing world with
  | nil => exact ⟨[], world, .nil⟩
  | @cons cause item causes items settles _ induction =>
      rcases settles world still with ⟨answered, stays⟩
      rcases ran : run item world with ⟨answer, touches, between⟩
      rw [ran] at answered stays
      cases answered
      rcases induction stays with ⟨more, after, rest⟩
      exact ⟨touches ++ more, after, .cons ran rest⟩

end Probe

namespace Criterion

/-! ## Leaves -/

def MadeBefore (supply : Supply) (construction : Fresh (Criterion World))
    (criterion : Criterion World) : Prop :=
  ∃ now : Supply, (construction now).1 = criterion ∧ (construction now).2.next ≤ supply.next

theorem madeBefore (construction : Fresh (Criterion World)) (now : Supply) :
    MadeBefore (construction now).2 construction (construction now).1 :=
  ⟨now, rfl, Nat.le_refl _⟩

variable [Records World]

/-- A term made of a subject. It evaluates the subject and asks the question of its value, on any
variable. -/
structure AsksOf (question : Value → Except Failure Bool) (make : Term World → Term World) :
    Prop where
  moves : ∀ old new subject, (make subject).rebind old new = make (subject.rebind old new)
  asks : ∃ touched, ∀ scope subject, (make subject).holds scope =
    (do Probe.given touched (question (← subject.value scope)))

private theorem asksOf_compare (comparison : Comparison) (value : Value) :
    AsksOf (comparison.apply · value)
      fun subject : Term World => .compare subject comparison (.literal value) where
  moves _ _ _ := rfl
  asks := by
    refine ⟨[], ?_⟩
    intro scope subject
    rw [Term.holds_compare]
    congr 1
    funext found
    exact Probe.ofExcept_eq_given _

private theorem asksOf_test (question : Value → Except Failure Bool) (operator : String)
    (operand : Option Value) (identity : Nat) :
    AsksOf question fun subject : Term World =>
      .test subject operator operand ⟨identity, fun value => Probe.ofExcept (question value)⟩ where
  moves _ _ _ := rfl
  asks := by
    refine ⟨[.test identity], ?_⟩
    intro scope subject
    rw [Term.holds_test]
    congr 1
    funext found
    exact Probe.touch_ofExcept_eq_given _ _

/-- The criterion reads the path and asks the question of what it read. -/
structure Leaf (limit : Nat) (path : Path) (question : Value → Except Failure Bool)
    (criterion : Criterion World) : Prop where
  method : criterion.method = .tree
  drawn : criterion.bound.number < limit
  named : criterion.bound.name = Fresh.defaultName
  body : ∃ make, AsksOf question make ∧ criterion.body = make (path.bind criterion.bound)

section

variable {supply : Supply} {criterion : Criterion World}

theorem MadeBefore.leaf_compare {path : Path} {comparison : Comparison} {value : Value}
    (made : MadeBefore supply (compare path comparison value) criterion) :
    criterion.Leaf supply.next path (comparison.apply · value) := by
  rcases made with ⟨now, rfl, before⟩
  exact {
    method := rfl
    drawn := Nat.lt_of_lt_of_le (isLeaf_compare rfl).drawn before
    named := rfl
    body := ⟨_, asksOf_compare comparison value, rfl⟩ }

theorem MadeBefore.leaf_test {property : Property} {operator : String} {operand : Option Value}
    {question : Value → Except Failure Bool}
    (made : MadeBefore supply (property.test operator operand question) criterion) :
    criterion.Leaf supply.next property.path question := by
  rcases made with ⟨now, rfl, before⟩
  exact {
    method := rfl
    drawn := Nat.lt_of_lt_of_le (isLeaf_test rfl).drawn before
    named := rfl
    body := ⟨_, asksOf_test question operator operand now.next, rfl⟩ }

end

namespace Leaf

variable {limit : Nat} {path : Path} {question : Value → Except Failure Bool}
  {criterion : Criterion World}

theorem evaluate (leaf : criterion.Leaf limit path question) :
    ∃ touched, ∀ entity, criterion.evaluate entity =
      (do Probe.given touched (question (← path.valueAt entity))) := by
  rcases leaf.body with ⟨make, asksOf, body⟩
  rcases asksOf.asks with ⟨touched, asks⟩
  refine ⟨touched, ?_⟩
  intro entity
  rw [evaluate_of_tree leaf.method, ← path.value_bind_of_named leaf.named, ← asks, ← body]
  rfl

theorem holds_bodyOn (leaf : criterion.Leaf limit path question) {shared : Variable}
    (fresh : limit ≤ shared.number) (named : shared.name = Fresh.defaultName) (entity : Record) :
    (criterion.predicate.bodyOn shared).holds ⟨shared, entity⟩ = criterion.evaluate entity := by
  have apart : ¬ criterion.predicate.bound.same shared := by
    rw [Variable.same_iff]
    exact Nat.ne_of_lt (Nat.lt_of_lt_of_le leaf.drawn fresh)
  rcases leaf.body with ⟨make, asksOf, body⟩
  rcases asksOf.asks with ⟨touched, asks⟩
  have moved : criterion.predicate.bodyOn shared = make (path.bind shared) := by
    rw [Predicate.bodyOn_eq_rebind apart]
    change criterion.body.rebind criterion.bound shared = _
    rw [body, asksOf.moves, path.rebind_bind]
  have alone : criterion.evaluate entity =
      (make (path.bind criterion.bound)).holds ⟨criterion.bound, entity⟩ := by
    rw [evaluate_of_tree leaf.method, ← body]
    rfl
  rw [moved, alone, asks, asks, path.value_bind_of_named named,
    path.value_bind_of_named leaf.named]

theorem answerOn (leaf : criterion.Leaf limit path question) (entity : Record) (world : World) :
    criterion.answerOn entity world = (path.valueAt entity world).answer >>= question := by
  rcases leaf.evaluate with ⟨touched, evaluates⟩
  rw [Criterion.answerOn, evaluates]
  rcases ran : path.valueAt entity world with ⟨failure | value, touches, after⟩
  · rw [Probe.bind_of_error ran]
    rfl
  · rw [Probe.bind_of_ok ran]
    rfl

theorem settles (leaf : criterion.Leaf limit path question) {steady : World → Prop}
    {entity : Record} {result : Except Failure Value}
    (settles : (path.valueAt entity).Settles steady result) :
    (criterion.evaluate entity).Settles steady (result >>= question) := by
  rcases leaf.evaluate with ⟨touched, evaluates⟩
  rw [evaluates]
  exact Probe.settles_bind settles fun value _ => Probe.settles_given touched (question value)

theorem answerOn_negate {now : Supply} (leaf : criterion.Leaf now.next path question)
    (entity : Record) (world : World) :
    (negate criterion now).1.answerOn entity world =
      (criterion.answerOn entity world).map (! ·) := by
  have named : (Variable.mk now.next criterion.bound.name).name = Fresh.defaultName := leaf.named
  have moved := leaf.holds_bodyOn (Nat.le_refl now.next) named entity
  have negated : (negate criterion now).1.evaluate entity =
      (! ·) <$> criterion.evaluate entity := by
    rw [evaluate_of_tree rfl, ← moved]
    exact (Term.holds_not _ _).trans (map_eq_pure_bind _ _).symm
  rw [Criterion.answerOn, negated, Probe.map_run]
  rfl

end Leaf

/-! ## Chains and counts of leaves -/

def AreLeaves (now : Supply) (operands : List (Criterion World)) : Prop :=
  ∀ operand ∈ operands, ∃ path question, operand.Leaf now.next path question

section

variable {now after : Supply} {operands : List (Criterion World)}

omit [Records World] in
private theorem bound_of_chain {combinator : String} {join : Term World → Term World → Term World}
    {predicate : Predicate World}
    (made : chain combinator join operands now = (.ok predicate, after)) :
    predicate.bound = ⟨now.next, firstName operands⟩ := by
  cases operands with
  | nil => cases made
  | cons first rest =>
      simp only [chain, List.isEmpty_cons, Bool.false_eq_true, if_false, Fresh.bind_run,
        rebindAll_run] at made
      cases joined : Balanced.join? join ((first :: rest).map
          (·.predicate.bodyOn ⟨now.next, first.bound.name⟩)) with
      | none =>
          rw [joined] at made
          cases made
      | some whole =>
          rw [joined] at made
          cases made
          rfl

theorem AreLeaves.evaluate_chain {combinator : String} {neutral : Bool}
    {predicate : Predicate World} (leaves : AreLeaves now operands)
    (made : chain combinator (Term.link neutral) operands now = (.ok predicate, after))
    (entity : Record) :
    predicate.evaluate entity = Probe.scan neutral (·.evaluate entity) operands := by
  rcases chain_of_ok made with ⟨fresh, _, joined⟩
  have nonempty : operands ≠ [] := by
    rintro rfl
    cases made
  have named : predicate.bound.name = Fresh.defaultName := by
    rw [bound_of_chain made]
    refine firstName_eq nonempty ?_
    intro operand member
    rcases leaves operand member with ⟨_, _, leaf⟩
    exact leaf.named
  have appends : Balanced.Appends (fun (term : Term World) (segment : List (Criterion World)) =>
      term.holds ⟨predicate.bound, entity⟩ = Probe.scan neutral (·.evaluate entity) segment)
      (Term.link neutral) := by
    intro left right first second leftScans rightScans
    rw [Term.holds_link, leftScans, rightScans, Probe.scan_append]
  refine Balanced.standsFor_join? appends ?_ joined
  intro operand member
  rcases leaves operand member with ⟨path, question, leaf⟩
  rw [Probe.scan_singleton]
  exact leaf.holds_bodyOn (Nat.le_of_eq fresh.symm) named entity

end

/-! ## Leaves of one path -/

def LeavesOf {Cause : Type} (now : Supply) (path : Path)
    (question : Cause → Value → Except Failure Bool) (causes : List Cause)
    (operands : List (Criterion World)) : Prop :=
  List.Forall₂ (fun cause operand => operand.Leaf now.next path (question cause)) causes operands

/-- What the criterion answers follows from what the questions answer: a failure that all of them
share, or, where the path can be read again, a combination of their verdicts. -/
structure Combines {Cause : Type} (path : Path) (question : Cause → Value → Except Failure Bool)
    (causes : List Cause) (combination : List Bool → Bool) (criterion : Criterion World) :
    Prop where
  fails : ∀ {entity world failure},
    (∀ cause, (path.valueAt entity world).answer >>= question cause = .error failure) →
    criterion.answerOn entity world = .error failure
  settles : ∀ {entity steady value} {own : Cause → Bool},
    (path.valueAt entity).Settles steady (.ok value) →
    (∀ cause, question cause value = .ok (own cause)) →
    ∀ world, steady world → criterion.answerOn entity world = .ok (combination (causes.map own))

section

variable {Cause : Type} {now : Supply} {path : Path}
  {question : Cause → Value → Except Failure Bool} {causes : List Cause}
  {operands : List (Criterion World)}

namespace LeavesOf

theorem exists_leaf (leaves : LeavesOf now path question causes operands) :
    ∀ operand ∈ operands, ∃ cause, operand.Leaf now.next path (question cause) := by
  induction leaves with
  | nil => nofun
  | cons leaf _ induction => exact List.forall_mem_cons.mpr ⟨⟨_, leaf⟩, induction⟩

private theorem areLeaves (leaves : LeavesOf now path question causes operands) :
    AreLeaves now operands := by
  intro operand member
  rcases leaves.exists_leaf operand member with ⟨cause, leaf⟩
  exact ⟨path, question cause, leaf⟩

theorem ne_nil (leaves : LeavesOf now path question causes operands) (nonempty : causes ≠ []) :
    operands ≠ [] := by
  rintro rfl
  cases leaves
  exact nonempty rfl

theorem fails (leaves : LeavesOf now path question causes operands) {entity : Record}
    {world : World} {failure : Failure}
    (shared : ∀ cause, (path.valueAt entity world).answer >>= question cause = .error failure) :
    ∀ operand ∈ operands, (operand.evaluate entity world).answer = .error failure := by
  intro operand member
  rcases leaves.exists_leaf operand member with ⟨cause, leaf⟩
  exact (leaf.answerOn entity world).trans (shared cause)

theorem exists_answered (leaves : LeavesOf now path question causes operands) {entity : Record}
    {steady : World → Prop} {value : Value} {own : Cause → Bool}
    (settles : (path.valueAt entity).Settles steady (.ok value))
    (answers : ∀ cause, question cause value = .ok (own cause)) {world : World}
    (still : steady world) :
    ∃ touches after,
      Probe.Answered (·.evaluate entity) operands world (causes.map own) touches after := by
  refine Probe.exists_answered_of_settles (leaves.imp ?_) still
  intro cause operand leaf
  rw [← answers cause]
  exact leaf.settles settles

theorem exists_chain (leaves : LeavesOf now path question causes operands)
    (nonempty : causes ≠ []) (combinator : String) (neutral : Bool) :
    ∃ result, ((do ofChain id (← chain combinator (Term.link neutral) operands)) now).1 =
        .ok result ∧
      result.Combines path question causes fun verdicts =>
        if ∀ verdict ∈ verdicts, verdict = neutral then neutral else !neutral := by
  have operandsNonempty := leaves.ne_nil nonempty
  rcases exists_ofChain_of_ne_nil combinator (Term.link neutral) id operandsNonempty with
    ⟨result, made⟩
  rcases ofChain_of_ok (Prod.ext made rfl) with ⟨predicate, between, chained, equal, method, _⟩
  have scans (entity : Record) :
      result.evaluate entity = Probe.scan neutral (·.evaluate entity) operands := by
    rw [evaluate_of_tree method, equal]
    exact leaves.areLeaves.evaluate_chain chained entity
  refine ⟨result, made, ?_, ?_⟩
  · intro entity world failure shared
    have failed := leaves.fails shared
    rw [answerOn, scans]
    cases operands with
    | nil => exact absurd rfl operandsNonempty
    | cons first rest => exact Probe.chained_of_failed (failed first List.mem_cons_self)
  · intro entity steady value own settles answers world still
    rcases leaves.exists_answered settles answers still with ⟨touches, after, ran⟩
    rw [answerOn, scans]
    exact ran.scan

theorem exists_anyOf (leaves : LeavesOf now path question causes operands)
    (nonempty : causes ≠ []) :
    ∃ any, (anyOf operands now).1 = .ok any ∧
      any.Combines path question causes (List.any · id) := by
  have someTrue (verdicts : List Bool) :
      (if ∀ verdict ∈ verdicts, verdict = false then false else true) = verdicts.any id := by
    rw [Bool.eq_iff_iff, List.any_eq_true]
    simp
  simp only [← someTrue]
  exact leaves.exists_chain nonempty "any_of" false

theorem exists_all (leaves : LeavesOf now path question causes operands) (nonempty : causes ≠ []) :
    ∃ every, (all operands now).1 = .ok every ∧
      every.Combines path question causes (List.all · id) := by
  have everyTrue (verdicts : List Bool) :
      (if ∀ verdict ∈ verdicts, verdict = true then true else false) = verdicts.all id := by
    rw [Bool.eq_iff_iff, List.all_eq_true]
    simp
  simp only [← everyTrue]
  exact leaves.exists_chain nonempty "all" true

theorem exists_counting (leaves : LeavesOf now path question causes operands)
    (nonempty : causes ≠ []) (quantifier : Quantifier)
    (inRange : quantifier.threshold ≤ causes.length)
    (small : quantifier.threshold < Number.int64Bound) :
    ∃ counted, (counting quantifier operands now).1 = .ok counted ∧
      counted.Combines path question causes fun verdicts =>
        quantifier.accepts (verdicts.count true) := by
  have operandsNonempty := leaves.ne_nil nonempty
  rw [leaves.length_eq] at inRange
  rcases exists_counting_of_small operandsNonempty inRange small with ⟨counted, made⟩
  have since : MadeSince now (counting quantifier operands) counted := ⟨now, Nat.le_refl _, made⟩
  refine ⟨counted, made, ?_, ?_⟩
  · intro entity world failure shared
    have failed := leaves.fails shared
    rw [answerOn, since.evaluate_counting, Probe.map_run]
    cases operands with
    | nil => exact absurd rfl operandsNonempty
    | cons first rest =>
        have stopped := @Probe.answer_mapM_of_failed _ _ _ (·.evaluate entity) first rest world
          failure (failed first List.mem_cons_self)
        dsimp only
        rw [stopped]
        rfl
  · intro entity steady value own settles answers world still
    rcases leaves.exists_answered settles answers still with ⟨touches, after, ran⟩
    exact answerOn_counting since ran

end LeavesOf

end

end Criterion

end Criteria

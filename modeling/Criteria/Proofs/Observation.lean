import Criteria.Term.Operation

/-!
What is observed of a probe.

Two ways of evaluating one condition need not be equal to the last detail: moving a term to another
variable changes the name that a failure about a bare variable carries, and only a cached criterion
uses a closure. An observation drops such details and keeps the rest: the answer or the failure, the
accesses in their order, and the world left behind. How failures are read is a parameter, the view.

Observing passes through sequencing, so two probes are shown to be observed alike step by step.
-/

namespace Criteria

namespace Failure

/-- A failure without the name of a bare variable. -/
def unnamed : Failure → Failure
  | .bareVariable _ => .bareVariable ""
  | failure => failure

end Failure

namespace Probe

variable {World Answer Next : Type} (view : Failure → Failure)

def observed (probe : Probe World Answer) : Probe World Answer :=
  fun world =>
    let outcome := probe world
    ⟨outcome.answer.mapError view, outcome.touches.filter Touch.isAccess, outcome.world⟩

/-- Two probes that give the same answer, or failures that differ at most in the name of a bare
variable, that read, call and test the same things in the same order, and that leave the same world
behind. -/
def Agrees (left right : Probe World Answer) : Prop :=
  left.observed Failure.unnamed = right.observed Failure.unnamed

@[simp] theorem observed_pure (answer : Answer) :
    (pure answer : Probe World Answer).observed view = pure answer :=
  rfl

@[simp] theorem observed_fail (failure : Failure) :
    (fail failure : Probe World Answer).observed view = fail (view failure) :=
  rfl

theorem observed_of_ok {probe : Probe World Answer} {world after : World} {answer : Answer}
    {touches : List Touch} (ran : probe world = ⟨.ok answer, touches, after⟩) :
    probe.observed view world = ⟨.ok answer, touches.filter Touch.isAccess, after⟩ := by
  simp only [observed, ran]
  rfl

theorem observed_of_error {probe : Probe World Answer} {world after : World} {failure : Failure}
    {touches : List Touch} (ran : probe world = ⟨.error failure, touches, after⟩) :
    probe.observed view world =
      ⟨.error (view failure), touches.filter Touch.isAccess, after⟩ := by
  simp only [observed, ran]
  rfl

theorem observed_answer_eq_ok_iff {probe : Probe World Answer} {world : World} {answer : Answer} :
    (probe.observed view world).answer = .ok answer ↔ (probe world).answer = .ok answer := by
  change (probe world).answer.mapError view = .ok answer ↔ _
  cases (probe world).answer with
  | error failure => exact ⟨nofun, nofun⟩
  | ok found => exact Iff.rfl

@[simp] theorem observed_bind (probe : Probe World Answer) (next : Answer → Probe World Next) :
    (probe >>= next).observed view =
      probe.observed view >>= fun answer => (next answer).observed view := by
  funext world
  rcases ran : probe world with ⟨failure | answer, touches, after⟩
  · rw [bind_of_error (observed_of_error view ran)]
    exact observed_of_error view (bind_of_error ran next)
  · rw [bind_of_ok (observed_of_ok view ran)]
    simp only [observed, bind_of_ok ran, List.filter_append]

@[simp] theorem observed_map (probe : Probe World Answer) (change : Answer → Next) :
    (change <$> probe).observed view = change <$> probe.observed view := by
  simp only [map_eq_pure_bind, observed_bind, observed_pure]

@[simp] theorem observed_ite (condition : Prop) [Decidable condition]
    (left right : Probe World Answer) :
    (if condition then left else right).observed view =
      if condition then left.observed view else right.observed view := by
  split <;> rfl

@[simp] theorem observed_touch_closure (identity nodes : Nat) (label : String) :
    (touch (.closure identity nodes label) : Probe World Unit).observed view = pure () :=
  rfl

namespace Agrees

variable {left middle right : Probe World Answer}

theorem refl (probe : Probe World Answer) : probe.Agrees probe :=
  rfl

theorem symm (agrees : left.Agrees right) : right.Agrees left :=
  Eq.symm agrees

theorem trans (first : left.Agrees middle) (second : middle.Agrees right) : left.Agrees right :=
  Eq.trans first second

theorem bind (agrees : left.Agrees right) (next : Answer → Probe World Next) :
    (left >>= next).Agrees (right >>= next) := by
  unfold Agrees at agrees ⊢
  rw [observed_bind, observed_bind, agrees]

end Agrees

/-! ## What answers are like -/

def Ensures (probe : Probe World Answer) (condition : Answer → Prop) : Prop :=
  ∀ world answer, (probe world).answer = .ok answer → condition answer

theorem ensures_pure {condition : Answer → Prop} {answer : Answer} (holds : condition answer) :
    (pure answer : Probe World Answer).Ensures condition := by
  intro world found equal
  cases equal
  exact holds

theorem ensures_bind {probe : Probe World Answer} {next : Answer → Probe World Next}
    {before : Answer → Prop} {condition : Next → Prop} (first : probe.Ensures before)
    (rest : ∀ answer, before answer → (next answer).Ensures condition) :
    (probe >>= next).Ensures condition := by
  intro world last equal
  rcases ran : probe world with ⟨answer | answer, touches, after⟩
  · rw [bind_of_error ran] at equal
    cases equal
  · rw [bind_of_ok ran] at equal
    exact rest answer (first world answer (by rw [ran])) after last equal

theorem Ensures.observed {probe : Probe World Answer} {condition : Answer → Prop}
    (ensured : probe.Ensures condition) : (probe.observed view).Ensures condition := by
  intro world answer equal
  rcases ran : probe world with ⟨failure | found, touches, after⟩
  · rw [observed_of_error view ran] at equal
    cases equal
  · rw [observed_of_ok view ran] at equal
    cases equal
    exact ensured world answer (by rw [ran])

/-- What follows a probe matters only on the answers that the probe can give. -/
theorem bind_congr_of_ensures {probe : Probe World Answer} {left right : Answer → Probe World Next}
    {condition : Answer → Prop} (ensured : probe.Ensures condition)
    (equal : ∀ answer, condition answer → left answer = right answer) :
    (probe >>= left) = (probe >>= right) := by
  funext world
  rcases ran : probe world with ⟨answer | answer, touches, after⟩
  · rw [bind_of_error ran, bind_of_error ran]
  · rw [bind_of_ok ran, bind_of_ok ran, equal answer (ensured world answer (by rw [ran]))]

end Probe

end Criteria

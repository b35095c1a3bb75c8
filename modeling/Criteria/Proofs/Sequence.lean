import Criteria.Proofs.Observation

/-!
Probes that are run one after another.

What a whole sequence comes to is told by relations that name each step: which items were run, in
which world each of them started, and where the run ended. There are two ways to go through a list.
Running it in turn collects all answers and stops at a failure only. Scanning it stops already at
the first verdict that is not the neutral one. Both touch what the items that were run touch, in
their order, and nothing else.
-/

namespace Criteria

namespace Probe

variable {World Item Answer Next : Type}

theorem exists_of_bind_ok {probe : Probe World Answer} {next : Answer → Probe World Next}
    {world after : World} {last : Next} {touches : List Touch}
    (ran : (probe >>= next) world = ⟨.ok last, touches, after⟩) :
    ∃ answer before between more, probe world = ⟨.ok answer, before, between⟩ ∧
      next answer between = ⟨.ok last, more, after⟩ ∧ touches = before ++ more := by
  rcases first : probe world with ⟨failure | answer, before, between⟩
  · rw [bind_of_error first] at ran
    cases ran
  · rw [bind_of_ok first] at ran
    rcases rest : next answer between with ⟨result, more, later⟩
    rw [rest] at ran
    cases ran
    exact ⟨answer, before, between, more, rfl, rest, rfl⟩

/-! ## In turn -/

/-- Every item answers, each in the world that the one before it left behind. -/
inductive Answered (run : Item → Probe World Answer) :
    List Item → World → List Answer → List Touch → World → Prop where
  | nil {world : World} : Answered run [] world [] [] world
  | cons {item : Item} {items : List Item} {world between after : World} {answer : Answer}
      {answers : List Answer} {touches more : List Touch}
      (ran : run item world = ⟨.ok answer, touches, between⟩)
      (rest : Answered run items between answers more after) :
      Answered run (item :: items) world (answer :: answers) (touches ++ more) after

/-- The outcome of running all items in turn: their answers, or the failure of the first item that
fails, and then no item behind it is run. -/
inductive InTurn (run : Item → Probe World Answer) (items : List Item) (world : World) :
    Outcome World (List Answer) → Prop where
  | answered {answers : List Answer} {touches : List Touch} {after : World}
      (ran : Answered run items world answers touches after) :
      InTurn run items world ⟨.ok answers, touches, after⟩
  | failed {passed behind : List Item} {failing : Item} {answers : List Answer}
      {touches more : List Touch} {between after : World} {failure : Failure}
      (split : items = passed ++ failing :: behind)
      (ran : Answered run passed world answers touches between)
      (fails : run failing between = ⟨.error failure, more, after⟩) :
      InTurn run items world ⟨.error failure, touches ++ more, after⟩

section

variable {run : Item → Probe World Answer}

theorem Answered.append {first second : List Item} {world between after : World}
    {firstAnswers secondAnswers : List Answer} {touches more : List Touch}
    (begun : Answered run first world firstAnswers touches between)
    (continued : Answered run second between secondAnswers more after) :
    Answered run (first ++ second) world (firstAnswers ++ secondAnswers) (touches ++ more)
      after := by
  induction begun with
  | nil => exact continued
  | cons ran _ induction =>
      rw [List.append_assoc]
      exact .cons ran (induction continued)

theorem Answered.length_eq {items : List Item} {world after : World} {answers : List Answer}
    {touches : List Touch} (ran : Answered run items world answers touches after) :
    answers.length = items.length := by
  induction ran with
  | nil => rfl
  | cons _ _ induction => rw [List.length_cons, List.length_cons, induction]

theorem Answered.observed (view : Failure → Failure) {items : List Item} {world after : World}
    {answers : List Answer} {touches : List Touch}
    (ran : Answered run items world answers touches after) :
    Answered (fun item => (run item).observed view) items world answers
      (touches.filter Touch.isAccess) after := by
  induction ran with
  | nil => exact .nil
  | cons ran _ induction =>
      rw [List.filter_append]
      exact .cons (observed_of_ok view ran) induction

theorem Answered.mapM {items : List Item} {world after : World} {answers : List Answer}
    {touches : List Touch} (ran : Answered run items world answers touches after) :
    items.mapM run world = ⟨.ok answers, touches, after⟩ := by
  induction ran with
  | nil => rfl
  | cons ran _ induction =>
      rw [List.mapM_cons, bind_of_ok ran, bind_of_ok induction]
      change Outcome.mk _ (_ ++ (_ ++ [])) _ = _
      rw [List.append_nil]
      rfl

private theorem InTurn.cons {item : Item} {items : List Item} {world between : World}
    {answer : Answer} {touches : List Touch} {outcome : Outcome World (List Answer)}
    (ran : run item world = ⟨.ok answer, touches, between⟩)
    (rest : InTurn run items between outcome) :
    InTurn run (item :: items) world
      ⟨outcome.answer.map (answer :: ·), touches ++ outcome.touches, outcome.world⟩ := by
  cases rest with
  | answered restRan => exact .answered (.cons ran restRan)
  | @failed passed behind failing _ _ _ _ _ _ split restRan fails =>
      have whole : item :: items = (item :: passed) ++ failing :: behind := by rw [split]; rfl
      dsimp only
      rw [← List.append_assoc]
      exact .failed whole (.cons ran restRan) fails

theorem mapM_cons_eq (item : Item) (items : List Item) :
    (item :: items).mapM run = (do
      let answer ← run item
      (answer :: ·) <$> items.mapM run) := by
  simp only [List.mapM_cons, map_eq_pure_bind]

theorem inTurn_mapM (run : Item → Probe World Answer) (items : List Item) (world : World) :
    InTurn run items world (items.mapM run world) := by
  induction items generalizing world with
  | nil => exact .answered .nil
  | cons item items induction =>
      rw [mapM_cons_eq]
      rcases ran : run item world with ⟨failure | answer, touches, between⟩
      · rw [bind_of_error ran]
        exact .failed (List.nil_append (item :: items)).symm .nil ran
      · rw [bind_of_ok ran, map_run]
        exact .cons ran (induction between)

end

/-! ## Scans -/

def chained (neutral : Bool) (first second : Probe World Bool) : Probe World Bool := do
  let verdict ← first
  if verdict = neutral then second else return verdict

def scan (neutral : Bool) (run : Item → Probe World Bool) : List Item → Probe World Bool
  | [] => pure neutral
  | item :: items => chained neutral (run item) (scan neutral run items)

/-- The outcome of asking the items from left to right for a verdict that is not the neutral one:
that of the first item that gives another verdict or fails, and no item behind it is run. -/
inductive Decided (neutral : Bool) (run : Item → Probe World Bool) (items : List Item)
    (world : World) : Outcome World Bool → Prop where
  | decided {passed behind : List Item} {deciding : Item} {verdicts : List Bool}
      {touches more : List Touch} {between after : World} {answer : Except Failure Bool}
      (split : items = passed ++ deciding :: behind)
      (ran : Answered run passed world verdicts touches between)
      (neutrals : ∀ verdict ∈ verdicts, verdict = neutral)
      (decides : run deciding between = ⟨answer, more, after⟩) (other : answer ≠ .ok neutral) :
      Decided neutral run items world ⟨answer, touches ++ more, after⟩
  | undecided {verdicts : List Bool} {touches : List Touch} {after : World}
      (ran : Answered run items world verdicts touches after)
      (neutrals : ∀ verdict ∈ verdicts, verdict = neutral) :
      Decided neutral run items world ⟨.ok neutral, touches, after⟩

section

variable {neutral : Bool} {run : Item → Probe World Bool}

theorem chained_of_neutral {first second : Probe World Bool} {world between : World}
    {touches : List Touch} (ran : first world = ⟨.ok neutral, touches, between⟩) :
    chained neutral first second world =
      ⟨(second between).answer, touches ++ (second between).touches, (second between).world⟩ := by
  rw [chained, bind_of_ok ran, if_pos rfl]

theorem chained_of_other {first second : Probe World Bool} {world after : World}
    {answer : Except Failure Bool} {touches : List Touch}
    (ran : first world = ⟨answer, touches, after⟩) (other : answer ≠ .ok neutral) :
    chained neutral first second world = ⟨answer, touches, after⟩ := by
  cases answer with
  | error failure => exact bind_of_error ran _
  | ok verdict =>
      have differs : verdict ≠ neutral := fun equal => other (congrArg Except.ok equal)
      rw [chained, bind_of_ok ran, if_neg differs]
      change Outcome.mk _ (touches ++ []) _ = _
      rw [List.append_nil]
      rfl

theorem chained_of_decided {first second : Probe World Bool} {world after : World}
    {verdict : Bool} {touches : List Touch}
    (ran : first world = ⟨.ok verdict, touches, after⟩) (other : verdict ≠ neutral) :
    chained neutral first second world = ⟨.ok verdict, touches, after⟩ :=
  chained_of_other ran fun equal => other (Except.ok.inj equal)

theorem chained_of_failed {first second : Probe World Bool} {world : World} {failure : Failure}
    (failed : (first world).answer = .error failure) :
    (chained neutral first second world).answer = .error failure := by
  rcases ran : first world with ⟨answer, touches, after⟩
  rw [ran] at failed
  cases failed
  rw [chained_of_other ran nofun]

private theorem chained_assoc (first second third : Probe World Bool) :
    chained neutral (chained neutral first second) third =
      chained neutral first (chained neutral second third) := by
  simp only [chained, bind_assoc]
  congr 1
  funext verdict
  split
  case isTrue => rfl
  case isFalse other => rw [pure_bind, if_neg other]

@[simp] theorem chained_pure (second : Probe World Bool) :
    chained neutral (pure neutral) second = second := by
  rw [chained, pure_bind, if_pos rfl]

theorem scan_append (first second : List Item) :
    scan neutral run (first ++ second) =
      chained neutral (scan neutral run first) (scan neutral run second) := by
  induction first with
  | nil => rw [List.nil_append, scan, chained_pure]
  | cons item items induction => rw [List.cons_append, scan, scan, induction, chained_assoc]

theorem scan_singleton (item : Item) : scan neutral run [item] = run item := by
  have kept : ∀ verdict : Bool,
      (if verdict = neutral then pure neutral else pure verdict : Probe World Bool) =
        pure verdict := by
    intro verdict
    split
    case isTrue equal => rw [equal]
    case isFalse => rfl
  simp only [scan, chained, kept, bind_pure]

private theorem Decided.cons {item : Item} {items : List Item} {world between : World}
    {touches : List Touch} {outcome : Outcome World Bool}
    (ran : run item world = ⟨.ok neutral, touches, between⟩)
    (rest : Decided neutral run items between outcome) :
    Decided neutral run (item :: items) world
      ⟨outcome.answer, touches ++ outcome.touches, outcome.world⟩ := by
  cases rest with
  | undecided restRan neutrals =>
      exact .undecided (.cons ran restRan) (List.forall_mem_cons.mpr ⟨rfl, neutrals⟩)
  | @decided passed behind deciding _ _ _ _ _ _ split restRan neutrals decides other =>
      have whole : item :: items = (item :: passed) ++ deciding :: behind := by rw [split]; rfl
      dsimp only
      rw [← List.append_assoc]
      exact .decided whole (.cons ran restRan) (List.forall_mem_cons.mpr ⟨rfl, neutrals⟩) decides
        other

theorem decided_scan (neutral : Bool) (run : Item → Probe World Bool) (items : List Item)
    (world : World) : Decided neutral run items world (scan neutral run items world) := by
  induction items generalizing world with
  | nil => exact .undecided .nil nofun
  | cons item items induction =>
      rcases ran : run item world with ⟨answer, touches, between⟩
      by_cases equal : answer = .ok neutral
      · rw [equal] at ran
        rw [scan, chained_of_neutral ran]
        exact .cons ran (induction between)
      · rw [scan, chained_of_other ran equal]
        exact .decided (List.nil_append (item :: items)).symm .nil nofun ran equal

theorem Answered.scan {items : List Item} {world after : World} {verdicts : List Bool}
    {touches : List Touch} (ran : Answered run items world verdicts touches after) :
    (scan neutral run items world).answer =
      .ok (if ∀ verdict ∈ verdicts, verdict = neutral then neutral else !neutral) := by
  induction ran with
  | nil => simp [Probe.scan]; rfl
  | @cons item items world between after verdict verdicts touches more ran _ induction =>
      by_cases equal : verdict = neutral
      · rw [equal] at ran
        rw [Probe.scan, chained_of_neutral ran, induction]
        simp [equal]
      · rw [Probe.scan, chained_of_decided ran equal]
        simp only [List.forall_mem_cons, equal, false_and, if_false]
        exact congrArg Except.ok (Bool.eq_not.mpr equal)

end

end Probe

end Criteria

import Criteria.Proofs.BoundPath
import Criteria.Proofs.Compilation
import Criteria.Proofs.Judgement

/-!
What an evaluation depends on.

Which members are read depends on what was read before: a verdict can make the rest superfluous, a
condition chooses between two values, and a failure ends everything. So two entities need not answer
alike to be judged alike. It is enough that the second one answers like the first where evaluating
on the first one asks, in the order in which it asks.

The acts of an evaluation are the account of that. They tell questions to the entity from everything
else that is touched, by the place in the term and not by the record: a record that is met as a
value is the same record in both evaluations, even if it is one of the two entities.

Worlds change while they are read. The two evaluations run through two sequences of worlds, which
are only alike, and what alike means is a parameter. Equal worlds are alike in every respect.
-/

namespace Criteria

variable {World Answer Next : Type}

/-! ## Acts -/

/-- What an evaluation does. It asks the entity itself, in the world of that moment, or it runs
something that does not know the entity. -/
inductive Act (World : Type) where
  | ask (step : PathStep) (world : World)
  | other (probe : Probe World Value) (world : World)

namespace Act

def touches (entity : Record) : Act World → List Touch
  | .ask step _ => [step.touch entity]
  | .other probe world => (probe world).touches

variable (alike : World → World → Prop)

/-- In alike worlds, what does not know the entity gives the same and touches the same, and it
leaves worlds behind that are alike. -/
def Undisturbed : Act World → Prop
  | .ask _ _ => True
  | .other probe world => ∀ other, alike world other →
      (probe other).answer = (probe world).answer ∧
      (probe other).touches = (probe world).touches ∧
      alike (probe world).world (probe other).world

variable [Records World]

/-- Where the first entity is asked, the second one gives the same value in alike worlds, or it is
unknown to both, and the worlds stay alike. -/
def AnswersAlike (first second : Record) : Act World → Prop
  | .ask step world => ∀ other, alike world other →
      (step.ask second other).1 = (step.ask first world).1 ∧
      alike (step.ask first world).2 (step.ask second other).2
  | .other _ _ => True

end Act

/-- Nothing that is done on the first entity comes out differently on the second one. -/
def Agree [Records World] (alike : World → World → Prop) (first second : Record)
    (acts : List (Act World)) : Prop :=
  ∀ act ∈ acts, act.Undisturbed alike ∧ act.AnswersAlike alike first second

theorem agree_eq_iff [Records World] {first second : Record} {acts : List (Act World)} :
    Agree Eq first second acts ↔
      ∀ step world, .ask step world ∈ acts → step.ask second world = step.ask first world := by
  constructor
  · intro agree step world member
    rcases (agree _ member).2 world rfl with ⟨same, after⟩
    exact Prod.ext same after.symm
  · intro same act member
    cases act with
    | ask step world =>
        refine ⟨trivial, ?_⟩
        rintro _ rfl
        rw [same step world member]
        exact ⟨rfl, rfl⟩
    | other probe world =>
        refine ⟨?_, trivial⟩
        rintro _ rfl
        exact ⟨rfl, rfl, rfl⟩

namespace Probe

def actsThen (probe : Probe World Answer) (acts : World → List (Act World))
    (next : Answer → World → List (Act World)) (world : World) : List (Act World) :=
  acts world ++
    match (probe world).answer with
    | .ok answer => next answer (probe world).world
    | .error _ => []

private theorem actsThen_nil (probe : Probe World Answer) (acts : World → List (Act World)) :
    (probe.actsThen acts fun _ _ => []) = acts := by
  funext world
  rw [actsThen]
  split <;> exact List.append_nil _

end Probe

namespace Term

/-- No part of the term tests the entity as a whole. Such a test is opaque, so what it asks is not
known. -/
def IsPlain (term : Term World) : Prop :=
  ∀ symbol label check, ¬ term.Contains (.custom symbol label check)

theorem IsPlain.part {whole part : Term World} (plain : whole.IsPlain)
    (member : part ∈ whole.children) : part.IsPlain := by
  intro symbol label check contains
  exact plain symbol label check (.child member contains)

variable [Records World]

/-! A target that is nothing but a variable stands for the entity, which is asked; a value that any
other target has is read like any value. -/

mutual
def acts (scope : Scope) : Term World → World → List (Act World)
  | .var _ => fun _ => []
  | .literal _ => fun _ => []
  | .member target name =>
      match target.symbol? with
      | some symbol =>
          (scope.expect symbol).actsThen (fun _ => []) fun _ world => [.ask (.member name) world]
      | none =>
          (target.value scope).actsThen (target.acts scope) fun value world =>
            [.other ((PathStep.member name).read value) world]
  | .call target method arguments =>
      (valuesOf scope arguments).actsThen (actsOfAll scope arguments) fun values =>
        match target.symbol? with
        | some symbol =>
            (scope.expect symbol).actsThen (fun _ => []) fun _ world =>
              [.ask (.call method values) world]
        | none =>
            (target.value scope).actsThen (target.acts scope) fun value world =>
              [.other ((PathStep.call method values).read value) world]
  | .compare left _ right =>
      (left.value scope).actsThen (left.acts scope) fun _ => right.acts scope
  | .test subject _ _ check =>
      (subject.value scope).actsThen (subject.acts scope) fun value world =>
        [.other (Value.bool <$> do
          Probe.touch (.test check.identity)
          check.run value) world]
  | .custom symbol _ check =>
      (scope.expect symbol).actsThen (fun _ => []) fun _ world =>
        [.other (Value.bool <$> do
          Probe.touch (.test check.identity)
          check.run scope.entity) world]
  | .and left right =>
      (left.holds scope).actsThen (left.acts scope) fun verdict =>
        if verdict then right.acts scope else fun _ => []
  | .or left right =>
      (left.holds scope).actsThen (left.acts scope) fun verdict =>
        if verdict then fun _ => [] else right.acts scope
  | .not operand => operand.acts scope
  | .conditional condition whenTrue whenFalse =>
      (condition.holds scope).actsThen (condition.acts scope) fun verdict =>
        if verdict then whenTrue.acts scope else whenFalse.acts scope
  | .add left right =>
      (left.value scope).actsThen (left.acts scope) fun _ => right.acts scope

def actsOfAll (scope : Scope) : List (Term World) → World → List (Act World)
  | [] => fun _ => []
  | term :: terms =>
      (term.value scope).actsThen (term.acts scope) fun _ => actsOfAll scope terms
end

def traceActs (scope : Scope) (mode : TraceMode) : Term World → World → List (Act World)
  | .and left right =>
      (left.trace scope mode).actsThen (left.traceActs scope mode) fun traced =>
        if !traced.1 && mode == .shortCircuit then fun _ => [] else right.traceActs scope mode
  | .or left right =>
      (left.trace scope mode).actsThen (left.traceActs scope mode) fun traced =>
        if traced.1 && mode == .shortCircuit then fun _ => [] else right.traceActs scope mode
  | .not operand => operand.traceActs scope mode
  | unit => unit.acts scope

end Term

/-! ## Two evaluations of one term -/

variable [Records World] {alike : World → World → Prop} {first second : Record}

/-- Two evaluations have the same result, and each does these acts on its own entity and nothing
else. -/
structure Retold (alike : World → World → Prop) (first second : Record) (acts : List (Act World))
    (left right : Outcome World Answer) : Prop where
  answer : right.answer = left.answer
  touches : left.touches = acts.flatMap (Act.touches first)
  touchesAgain : right.touches = acts.flatMap (Act.touches second)
  alike : alike left.world right.world

namespace Probe

/-- From alike worlds the second probe retells the first one, if the entities agree on its acts. -/
def Follows (alike : World → World → Prop) (first second : Record) (left : Probe World Answer)
    (acts : World → List (Act World)) (right : Probe World Answer) : Prop :=
  ∀ world other, alike world other → Agree alike first second (acts world) →
    Retold alike first second (acts world) (left world) (right other)

namespace Follows

theorem pure (answer : Answer) :
    Follows alike first second (pure answer) (fun _ => []) (pure answer) := by
  intro world other start _
  exact ⟨rfl, rfl, rfl, start⟩

theorem fail (failure : Failure) :
    Follows alike first second (fail failure : Probe World Answer) (fun _ => [])
      (fail failure) := by
  intro world other start _
  exact ⟨rfl, rfl, rfl, start⟩

theorem ofExcept (result : Except Failure Answer) :
    Follows alike first second (ofExcept result) (fun _ => []) (ofExcept result) := by
  cases result with
  | ok answer => exact pure answer
  | error failure => exact fail failure

theorem expect (bound symbol : Variable) :
    Follows alike first second ((Scope.mk bound first).expect symbol) (fun _ => [])
      ((Scope.mk bound second).expect symbol) := by
  unfold Scope.expect
  split
  · exact pure ()
  · exact fail _

theorem ask (step : PathStep) :
    Follows alike first second (step.read (.record first)) (fun world => [.ask step world])
      (step.read (.record second)) := by
  intro world other start agree
  rcases (agree _ (List.mem_singleton_self _)).2 other start with ⟨same, after⟩
  rw [PathStep.read_record, PathStep.read_record]
  exact ⟨by rw [same], rfl, rfl, after⟩

theorem other (probe : Probe World Value) :
    Follows alike first second probe (fun world => [.other probe world]) probe := by
  intro world other start agree
  rcases (agree _ (List.mem_singleton_self _)).1 other start with ⟨answer, touches, after⟩
  have listed : (probe world).touches =
      [Act.other probe world].flatMap (Act.touches first) := (List.append_nil _).symm
  exact ⟨answer, listed, touches.trans listed, after⟩

section

variable {left right : Probe World Answer} {acts : World → List (Act World)}
  {next again : Answer → Probe World Next} {further : Answer → World → List (Act World)}

theorem bind (follows : Follows alike first second left acts right)
    (rest : ∀ answer, Follows alike first second (next answer) (further answer) (again answer)) :
    Follows alike first second (left >>= next) (left.actsThen acts further)
      (right >>= again) := by
  intro world other start agree
  have told := follows world other start fun act member =>
    agree act (List.mem_append_left _ member)
  rcases ran : left world with ⟨answer, touches, after⟩
  rcases ranAgain : right other with ⟨answerAgain, touchesAgain, afterAgain⟩
  rw [ran, ranAgain] at told
  rcases told with ⟨same, listed, listedAgain, stillAlike⟩
  dsimp only at same listed listedAgain stillAlike
  rw [same] at ranAgain
  cases answer with
  | error failure =>
      have done : left.actsThen acts further world = acts world := by
        simp only [actsThen, ran, List.append_nil]
      rw [bind_of_error ran, bind_of_error ranAgain, done]
      exact ⟨rfl, listed, listedAgain, stillAlike⟩
  | ok answer =>
      have done : left.actsThen acts further world = acts world ++ further answer after := by
        simp only [actsThen, ran]
      rw [done] at agree
      have toldNext := rest answer after afterAgain stillAlike fun act member =>
        agree act (List.mem_append_right _ member)
      rw [bind_of_ok ran, bind_of_ok ranAgain, done]
      exact {
        answer := toldNext.answer
        touches := by rw [List.flatMap_append, ← listed, ← toldNext.touches]
        touchesAgain := by rw [List.flatMap_append, ← listedAgain, ← toldNext.touchesAgain]
        alike := toldNext.alike }

theorem bind_quiet (follows : Follows alike first second left acts right)
    (rest : ∀ answer, Follows alike first second (next answer) (fun _ => []) (again answer)) :
    Follows alike first second (left >>= next) acts (right >>= again) := by
  have bound := follows.bind rest
  rwa [actsThen_nil] at bound

theorem map (follows : Follows alike first second left acts right) (change : Answer → Next) :
    Follows alike first second (change <$> left) acts (change <$> right) := by
  rw [map_eq_pure_bind, map_eq_pure_bind]
  exact follows.bind_quiet fun answer => pure (change answer)

theorem ite (condition : Prop) [Decidable condition] {otherLeft otherRight : Probe World Answer}
    {otherActs : World → List (Act World)} (follows : Follows alike first second left acts right)
    (otherwise : Follows alike first second otherLeft otherActs otherRight) :
    Follows alike first second (if condition then left else otherLeft)
      (if condition then acts else otherActs) (if condition then right else otherRight) := by
  split
  · exact follows
  · exact otherwise

end

end Follows

end Probe

namespace Term

open Probe (Follows)

variable {bound : Variable}

theorem follows_holds {term : Term World}
    (follows : Follows alike first second (term.value ⟨bound, first⟩) (term.acts ⟨bound, first⟩)
      (term.value ⟨bound, second⟩)) :
    Follows alike first second (term.holds ⟨bound, first⟩) (term.acts ⟨bound, first⟩)
      (term.holds ⟨bound, second⟩) :=
  follows.bind_quiet fun value => .ofExcept value.condition

private theorem follows_valuesOf {terms : List (Term World)}
    (follows : ∀ term ∈ terms, Follows alike first second (term.value ⟨bound, first⟩)
      (term.acts ⟨bound, first⟩) (term.value ⟨bound, second⟩)) :
    Follows alike first second (valuesOf ⟨bound, first⟩ terms) (actsOfAll ⟨bound, first⟩ terms)
      (valuesOf ⟨bound, second⟩ terms) := by
  induction terms with
  | nil => exact .pure []
  | cons term terms induction =>
      have rest := induction fun other member => follows other (List.mem_cons_of_mem term member)
      rw [valuesOf, valuesOf, actsOfAll]
      refine (follows term List.mem_cons_self).bind ?_
      intro value
      exact rest.bind_quiet fun values => .pure (value :: values)

theorem follows_value {term : Term World} (plain : term.IsPlain) :
    Follows alike first second (term.value ⟨bound, first⟩) (term.acts ⟨bound, first⟩)
      (term.value ⟨bound, second⟩) := by
  induction term with
  | var symbol =>
      rw [value, value, acts]
      exact (Follows.expect bound symbol).bind_quiet fun _ => .fail _
  | literal value => exact .pure value
  | member target name targetFollows =>
      rw [acts]
      cases found : target.symbol? with
      | none =>
          have targetFollows := targetFollows (plain.part (List.mem_singleton_self target))
          rw [value_member _ name found, value_member _ name found]
          exact targetFollows.bind fun value => .other ((PathStep.member name).read value)
      | some symbol =>
          cases eq_var_of_symbol? found
          rw [value_member_var, value_member_var]
          exact (Follows.expect bound symbol).bind fun _ => .ask (.member name)
  | call target method arguments targetFollows argumentsFollow =>
      have argumentsFollow := follows_valuesOf fun argument member =>
        argumentsFollow argument member (plain.part (List.mem_cons_of_mem target member))
      rw [acts]
      cases found : target.symbol? with
      | none =>
          have targetFollows := targetFollows (plain.part List.mem_cons_self)
          rw [value_call _ method arguments found, value_call _ method arguments found]
          refine argumentsFollow.bind ?_
          intro values
          exact targetFollows.bind fun value => .other ((PathStep.call method values).read value)
      | some symbol =>
          cases eq_var_of_symbol? found
          rw [value_call_var, value_call_var]
          refine argumentsFollow.bind ?_
          intro values
          exact (Follows.expect bound symbol).bind fun _ => .ask (.call method values)
  | compare left comparison right leftFollows rightFollows =>
      rw [value_compare, value_compare, acts]
      refine Follows.map ?_ Value.bool
      refine (leftFollows (plain.part (by simp [children]))).bind ?_
      intro leftValue
      exact (rightFollows (plain.part (by simp [children]))).bind_quiet fun _ => .ofExcept _
  | test subject operator operand check subjectFollows =>
      have subjectFollows := subjectFollows (plain.part (List.mem_singleton_self subject))
      rw [value_test, value_test, acts, map_bind, map_bind]
      exact subjectFollows.bind fun value => .other _
  | custom symbol label check => exact absurd .self (plain symbol label check)
  | and left right leftFollows rightFollows =>
      have leftFollows := leftFollows (plain.part (by simp [children]))
      have rightFollows := rightFollows (plain.part (by simp [children]))
      rw [value_and, value_and, acts]
      refine Follows.map ?_ Value.bool
      exact (follows_holds leftFollows).bind fun verdict =>
        .ite verdict (follows_holds rightFollows) (.pure false)
  | or left right leftFollows rightFollows =>
      have leftFollows := leftFollows (plain.part (by simp [children]))
      have rightFollows := rightFollows (plain.part (by simp [children]))
      rw [value_or, value_or, acts]
      refine Follows.map ?_ Value.bool
      exact (follows_holds leftFollows).bind fun verdict =>
        .ite verdict (.pure true) (follows_holds rightFollows)
  | not operand operandFollows =>
      have operandFollows := operandFollows (plain.part (List.mem_singleton_self operand))
      rw [value_not, value_not, acts]
      refine Follows.map ?_ Value.bool
      exact (follows_holds operandFollows).bind_quiet fun verdict => .pure (!verdict)
  | conditional condition whenTrue whenFalse conditionFollows trueFollows falseFollows =>
      have conditionFollows := conditionFollows (plain.part (by simp [children]))
      have trueFollows := trueFollows (plain.part (by simp [children]))
      have falseFollows := falseFollows (plain.part (by simp [children]))
      rw [value_conditional, value_conditional, acts]
      exact (follows_holds conditionFollows).bind fun verdict =>
        .ite verdict trueFollows falseFollows
  | add left right leftFollows rightFollows =>
      rw [value, value, acts]
      refine (leftFollows (plain.part (by simp [children]))).bind ?_
      intro leftValue
      exact (rightFollows (plain.part (by simp [children]))).bind_quiet fun _ => .ofExcept _

theorem follows_trace {term : Term World} (plain : term.IsPlain) (mode : TraceMode) :
    Follows alike first second (term.trace ⟨bound, first⟩ mode)
      (term.traceActs ⟨bound, first⟩ mode) (term.trace ⟨bound, second⟩ mode) := by
  induction term with
  | and left right leftFollows rightFollows =>
      have leftFollows := leftFollows (plain.part (by simp [children]))
      have rightFollows := rightFollows (plain.part (by simp [children]))
      rw [trace, trace, traceActs]
      exact leftFollows.bind fun traced => .ite _ (.pure _)
        (rightFollows.bind_quiet fun _ => .pure _)
  | or left right leftFollows rightFollows =>
      have leftFollows := leftFollows (plain.part (by simp [children]))
      have rightFollows := rightFollows (plain.part (by simp [children]))
      rw [trace, trace, traceActs]
      exact leftFollows.bind fun traced => .ite _ (.pure _)
        (rightFollows.bind_quiet fun _ => .pure _)
  | not operand operandFollows =>
      rw [trace, trace, traceActs]
      exact (operandFollows (plain.part (List.mem_singleton_self operand))).bind_quiet
        fun traced => .pure _
  | _ => exact (follows_holds (follows_value plain)).bind_quiet fun passed => .pure _

/-! ## The whole evaluation -/

/-- An evaluation depends only on what it asks the entity, for every term that does not test the
entity as a whole, every variable and any two entities.

If the second entity answers what the first one is asked, one question after the other and to the
last, then both give the same value and the same verdict or fail alike, and the questions, the reads
of other records, the calls and the tests are the same in the same order. This holds for walking the
tree, for the compiled closures, and for traces of both modes, where the questions that count are
those of the trace. Both evaluations may start in one world, and then nothing else has to agree. -/
theorem evaluation_depends_on_answers (bound : Variable) (term : Term World)
    (plain : term.IsPlain) (first second : Record) (alike : World → World → Prop)
    (world other : World) (start : alike world other) :
    (Agree alike first second (term.acts ⟨bound, first⟩ world) →
      Retold alike first second (term.acts ⟨bound, first⟩ world)
        (term.holds ⟨bound, first⟩ world) (term.holds ⟨bound, second⟩ other) ∧
      Retold alike first second (term.acts ⟨bound, first⟩ world)
        (term.value ⟨bound, first⟩ world) (term.value ⟨bound, second⟩ other) ∧
      Retold alike first second (term.acts ⟨bound, first⟩ world)
        ((term.compile bound).condition first world)
        ((term.compile bound).condition second other) ∧
      Retold alike first second (term.acts ⟨bound, first⟩ world)
        ((term.compile bound).value first world) ((term.compile bound).value second other)) ∧
    ∀ mode, Agree alike first second (term.traceActs ⟨bound, first⟩ mode world) →
      Retold alike first second (term.traceActs ⟨bound, first⟩ mode world)
        (term.trace ⟨bound, first⟩ mode world) (term.trace ⟨bound, second⟩ mode other) := by
  have value : Follows alike first second (term.value ⟨bound, first⟩) (term.acts ⟨bound, first⟩)
    (term.value ⟨bound, second⟩) := follows_value plain
  constructor
  · intro agree
    have valued := value world other start agree
    have held := follows_holds value world other start agree
    have firstCode := term.compile_refines ⟨bound, first⟩
    have secondCode := term.compile_refines ⟨bound, second⟩
    refine ⟨held, valued, ?_, ?_⟩
    · rw [firstCode.condition, secondCode.condition]
      exact held
    · rw [firstCode.value, secondCode.value]
      exact valued
  · intro mode agree
    exact follows_trace plain mode world other start agree

section

open Sample

def twoPairs : Gallery :=
  ⟨#[.flags ⟨true, false⟩, .flags ⟨true, true⟩]⟩

def eitherFlag : Term Gallery :=
  .or (.member (.var ⟨0, "x"⟩) "a") (.member (.var ⟨0, "x"⟩) "b")

private theorem eitherFlag_isPlain : eitherFlag.IsPlain := by
  intro symbol label check contains
  cases contains with
  | child member contains =>
    simp only [eitherFlag, children, List.mem_cons, List.not_mem_nil, or_false] at member
    rcases member with rfl | rfl
    all_goals
      cases contains with
      | child member contains =>
        cases List.mem_singleton.mp member
        cases contains with
        | child member _ => cases member

/-- The flags that differ are not asked for, unless the trace is exhaustive. -/
theorem eitherFlag_retold :
    (eitherFlag.holds ⟨⟨0, "x"⟩, ⟨1⟩⟩ twoPairs).answer =
      (eitherFlag.holds ⟨⟨0, "x"⟩, ⟨0⟩⟩ twoPairs).answer ∧
    (eitherFlag.holds ⟨⟨0, "x"⟩, ⟨1⟩⟩ twoPairs).touches = [.member ⟨1⟩ "a"] ∧
    (eitherFlag.trace ⟨⟨0, "x"⟩, ⟨1⟩⟩ .shortCircuit twoPairs).answer =
      (eitherFlag.trace ⟨⟨0, "x"⟩, ⟨0⟩⟩ .shortCircuit twoPairs).answer := by
  have asked : eitherFlag.acts ⟨⟨0, "x"⟩, ⟨0⟩⟩ twoPairs = [.ask (.member "a") twoPairs] := rfl
  have traced : eitherFlag.traceActs ⟨⟨0, "x"⟩, ⟨0⟩⟩ .shortCircuit twoPairs =
    [.ask (.member "a") twoPairs] := rfl
  have agree : Agree Eq ⟨0⟩ ⟨1⟩ [.ask (.member "a") twoPairs] := by
    rw [agree_eq_iff]
    intro step world member
    cases List.mem_singleton.mp member
    rfl
  rcases evaluation_depends_on_answers ⟨0, "x"⟩ eitherFlag eitherFlag_isPlain ⟨0⟩ ⟨1⟩ Eq twoPairs
    twoPairs rfl with ⟨evaluated, traces⟩
  rw [asked] at evaluated
  have shortTrace := traces .shortCircuit
  rw [traced] at shortTrace
  have retold := (evaluated agree).1
  exact ⟨retold.answer, retold.touchesAgain, (shortTrace agree).answer⟩

end

end Term

end Criteria

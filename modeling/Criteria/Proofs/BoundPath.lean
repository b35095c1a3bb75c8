import Criteria.Path.Text
import Criteria.Proofs.Explanation

/-!
Bound paths.

Binding a path nests its steps from the inside out, so the last step is the outermost access, and an
access evaluates its arguments before its target. What comes of it is told here from left to right:
each step reads from the value that the step before it gave, and the first one from the entity. The
text of the nest and the text of the path are written by two separate renderers, and they agree.
-/

namespace Criteria

variable {World : Type}

/-! ## Texts -/

private theorem Value.separated_eq_intercalate (parts : List (List Char)) :
    separated parts = [',', ' '].intercalate parts := by
  induction parts using separated.induct with
  | case1 => rfl
  | case2 last => rw [separated, List.intercalate_singleton]
  | case3 first second rest induction =>
      rw [separated, induction, List.intercalate_cons_cons]
      simp

private theorem Term.explain_literals (arguments : List Value) :
    (explainAll (arguments.map (@Term.literal World))).map String.toList =
      arguments.map Value.characters := by
  rw [explainAll_eq_map, List.map_map, List.map_map]
  refine List.map_congr_left fun argument _ => ?_
  exact String.toList_ofList

namespace PathStep

private theorem explain_apply (target : Term World) (step : PathStep) :
    (step.apply target).explain.toList = target.explain.toList ++ '.' :: step.characters := by
  cases step with
  | member name => simp [apply, Term.explain, characters]
  | call method arguments =>
      simp [apply, Term.explain, characters, Term.explain_literals,
        Value.separated_eq_intercalate]

end PathStep

namespace Path

def dotted (steps : List PathStep) : List Char :=
  steps.flatMap fun step => '.' :: step.characters

private theorem dotted_eq {steps : List PathStep} (nonempty : steps ≠ []) :
    dotted steps = '.' :: charactersOfSteps steps := by
  induction steps using charactersOfSteps.induct with
  | case1 => exact absurd rfl nonempty
  | case2 last => rw [dotted, List.flatMap_singleton, charactersOfSteps]
  | case3 first second rest induction =>
      rw [dotted, List.flatMap_cons, charactersOfSteps]
      change _ ++ dotted (second :: rest) = _
      rw [induction (List.cons_ne_nil second rest), List.cons_append]

private theorem explain_applyAll (steps : List PathStep) (target : Term World) :
    (steps.foldl PathStep.apply target).explain.toList =
      target.explain.toList ++ dotted steps := by
  induction steps generalizing target with
  | nil => exact (List.append_nil _).symm
  | cons step steps induction =>
      rw [List.foldl_cons, induction, PathStep.explain_apply, List.append_assoc]
      rfl

private theorem explain_bind (path : Path) (symbol : Variable) :
    (path.bind symbol : Term World).explain =
      if path.isRoot then symbol.name else symbol.name ++ "." ++ path.text := by
  rw [← String.toList_inj, bind, explain_applyAll]
  split
  case isTrue root =>
    rw [isRoot, List.isEmpty_iff] at root
    rw [root]
    exact List.append_nil _
  case isFalse nonempty =>
    rw [isRoot, List.isEmpty_iff] at nonempty
    rw [dotted_eq nonempty]
    simp [text, Term.explain]

end Path

/-! ## Reading step by step -/

/-- The bound variable is expected. -/
theorem Scope.expect_self (symbol : Variable) (entity : Record) :
    ((Scope.mk symbol entity).expect symbol : Probe World Unit) = pure () :=
  if_pos symbol.same_self

namespace PathStep

def name : PathStep → String
  | .member name => name
  | .call method _ => method ++ "()"

def unknown : PathStep → Failure
  | .member name => .unknownMember name
  | .call method _ => .unknownMethod method

def touch (record : Record) : PathStep → Touch
  | .member name => .member record name
  | .call method arguments => .call record method arguments

section

variable [Records World]

def ask (record : Record) : PathStep → World → Option Value × World
  | .member name => Records.member record name
  | .call method arguments => Records.call record method arguments

/-- The outcome of one step from a value. Only a record is asked, and once; nothing else is
touched. -/
inductive Reads (step : PathStep) : Value → World → Outcome World Value → Prop where
  | found {record : Record} {world after : World} {value : Value}
      (answers : step.ask record world = (some value, after)) :
      Reads step (.record record) world ⟨.ok value, [step.touch record], after⟩
  | unknown {record : Record} {world after : World}
      (answers : step.ask record world = (none, after)) :
      Reads step (.record record) world ⟨.error step.unknown, [step.touch record], after⟩
  | missing {world : World} : Reads step .none world ⟨.error (.nullAccess step.name), [], world⟩
  | notARecord {value : Value} {world : World} (present : value.isNone = false)
      (other : value.isRecord = false) :
      Reads step value world ⟨.error (.notARecord step.name value), [], world⟩

def read : PathStep → Value → Probe World Value
  | .member name, target => Probe.memberOf target name
  | .call method arguments, target => Probe.callOn target method arguments

theorem read_record (step : PathStep) (record : Record) (world : World) :
    step.read (.record record) world =
      ⟨(step.ask record world).1.elim (.error step.unknown) .ok, [step.touch record],
        (step.ask record world).2⟩ := by
  cases step with
  | member name =>
      have asked : Probe.askMember record name world =
        ⟨.ok (ask record (.member name) world).1, _, _⟩ := rfl
      rw [read, Probe.memberOf, Probe.readMember, Probe.bind_of_ok asked]
      cases (ask record (.member name) world).1 <;> rfl
  | call method arguments =>
      have asked : Probe.askCall record method arguments world =
        ⟨.ok (ask record (.call method arguments) world).1, _, _⟩ := rfl
      rw [read, Probe.callOn, Probe.callMethod, Probe.bind_of_ok asked]
      cases (ask record (.call method arguments) world).1 <;> rfl

private theorem read_of_missing (step : PathStep) (world : World) :
    step.read .none world = ⟨.error (.nullAccess step.name), [], world⟩ := by
  cases step <;> rfl

private theorem read_of_other (step : PathStep) {value : Value} (world : World)
    (present : value.isNone = false) (other : value.isRecord = false) :
    step.read value world = ⟨.error (.notARecord step.name value), [], world⟩ := by
  cases value with
  | none => cases present
  | record record => cases other
  | _ => cases step <;> rfl

theorem reads_iff {step : PathStep} {value : Value} {world : World}
    {outcome : Outcome World Value} :
    step.Reads value world outcome ↔ step.read value world = outcome := by
  constructor
  · intro reads
    cases reads with
    | found answers => rw [read_record, answers, Option.elim_some]
    | unknown answers => rw [read_record, answers, Option.elim_none]
    | missing => exact read_of_missing step world
    | notARecord present other => exact read_of_other step world present other
  · rintro rfl
    cases value with
    | record record =>
        rw [read_record]
        rcases answers : step.ask record world with ⟨_ | value, after⟩
        · exact .unknown answers
        · exact .found answers
    | none =>
        rw [read_of_missing]
        exact .missing
    | _ =>
        rw [read_of_other step world rfl rfl]
        exact .notARecord rfl rfl

end

theorem symbol?_apply (step : PathStep) (target : Term World) :
    (step.apply target).symbol? = none := by
  cases step <;> rfl

variable [Records World]

theorem valuesOf_literals (scope : Scope) (arguments : List Value) :
    Term.valuesOf scope (arguments.map (@Term.literal World)) = pure arguments := by
  induction arguments with
  | nil => rfl
  | cons argument arguments induction =>
      rw [List.map_cons, Term.valuesOf, induction]
      rfl

private theorem value_apply (step : PathStep) (scope : Scope) {target : Term World}
    (compound : target.symbol? = none) :
    (step.apply target).value scope = (do step.read (← target.value scope)) := by
  cases step with
  | member name => exact Term.value_member scope name compound
  | call method arguments =>
      rw [apply, Term.value_call scope method _ compound, valuesOf_literals, pure_bind]
      rfl

theorem value_apply_var (step : PathStep) (symbol : Variable) (entity : Record) :
    (step.apply (.var symbol) : Term World).value ⟨symbol, entity⟩ =
      step.read (.record entity) := by
  cases step with
  | member name =>
      rw [apply, Term.value_member_var, Scope.expect_self, pure_bind]
      rfl
  | call method arguments =>
      rw [apply, Term.value_call_var, valuesOf_literals, pure_bind, Scope.expect_self, pure_bind]
      rfl

end PathStep

namespace Path

variable [Records World]

/-- The outcome of reading steps from left to right, each from the value that the one before it
gave. Behind a step that fails nothing is read. -/
inductive Walks : List PathStep → Value → World → Outcome World Value → Prop where
  | arrived {value : Value} {world : World} : Walks [] value world ⟨.ok value, [], world⟩
  | stopped {step : PathStep} {steps : List PathStep} {value : Value} {world after : World}
      {failure : Failure} {touches : List Touch}
      (fails : step.Reads value world ⟨.error failure, touches, after⟩) :
      Walks (step :: steps) value world ⟨.error failure, touches, after⟩
  | onward {step : PathStep} {steps : List PathStep} {value next : Value}
      {world between after : World} {answer : Except Failure Value} {touches more : List Touch}
      (reads : step.Reads value world ⟨.ok next, touches, between⟩)
      (rest : Walks steps next between ⟨answer, more, after⟩) :
      Walks (step :: steps) value world ⟨answer, touches ++ more, after⟩

def walk (steps : List PathStep) (start : Value) : Probe World Value :=
  steps.foldlM (fun value step => step.read value) start

private theorem walk_cons (step : PathStep) (steps : List PathStep) (value : Value) :
    (walk (step :: steps) value : Probe World Value) = (do walk steps (← step.read value)) :=
  rfl

private theorem walks_iff {steps : List PathStep} {value : Value} {world : World}
    {outcome : Outcome World Value} :
    Walks steps value world outcome ↔ walk steps value world = outcome := by
  constructor
  · intro walks
    induction walks with
    | arrived => rfl
    | stopped fails =>
        rw [walk_cons]
        exact Probe.bind_of_error (PathStep.reads_iff.mp fails) _
    | onward reads _ induction =>
        rw [walk_cons, Probe.bind_of_ok (PathStep.reads_iff.mp reads), induction]
  · rintro rfl
    induction steps generalizing value world with
    | nil => exact .arrived
    | cons step steps induction =>
        rw [walk_cons]
        rcases ran : step.read value world with ⟨failure | next, touches, between⟩
        · rw [Probe.bind_of_error ran]
          exact .stopped (PathStep.reads_iff.mpr ran)
        · rw [Probe.bind_of_ok ran]
          exact .onward (PathStep.reads_iff.mpr ran) induction

private theorem value_applyAll (steps : List PathStep) (scope : Scope) {target : Term World}
    (compound : target.symbol? = none) :
    (steps.foldl PathStep.apply target).value scope = (do walk steps (← target.value scope)) := by
  induction steps generalizing target with
  | nil => exact (bind_pure _).symm
  | cons step steps induction =>
      rw [List.foldl_cons, induction (step.symbol?_apply target), step.value_apply scope compound,
        bind_assoc]
      rfl

theorem value_bind {path : Path} (nonempty : path.steps ≠ []) (symbol : Variable)
    (entity : Record) :
    (path.bind symbol : Term World).value ⟨symbol, entity⟩ = walk path.steps (.record entity) := by
  rcases path with ⟨steps⟩
  cases steps with
  | nil => exact absurd rfl nonempty
  | cons step steps =>
      rw [bind, List.foldl_cons, value_applyAll steps _ (step.symbol?_apply _),
        step.value_apply_var]
      rfl

/-! ## The whole path -/

/-- A bound path, for any names and arguments, any variable and any entity.

It mentions the variable it is bound to and no other. Its text is the name of the variable and,
unless the path is the entity itself, the text of the path behind a point. The entity itself is no
value; any other path has the one outcome that walking its steps from left to right has. -/
theorem bound_path_walks_as_written (path : Path) (symbol : Variable) :
    (path.bind symbol : Term World).freeVariables = [symbol] ∧
    (path.bind symbol : Term World).occurrences = [symbol] ∧
    (path.bind symbol : Term World).explain =
      (if path.isRoot then symbol.name else symbol.name ++ "." ++ path.text) ∧
    ∀ (entity : Record) (world : World) (outcome : Outcome World Value),
      (path.bind symbol : Term World).value ⟨symbol, entity⟩ world = outcome ↔
        if path.isRoot then outcome = ⟨.error (.bareVariable symbol.name), [], world⟩
        else Walks path.steps (.record entity) world outcome := by
  have occurs := @occurrences_bind World path symbol
  refine ⟨?_, occurs, path.explain_bind symbol, ?_⟩
  · rw [Term.freeVariables, occurs]
    rfl
  · intro entity world outcome
    split
    case isTrue root =>
      rw [isRoot, List.isEmpty_iff] at root
      have expected : ((Scope.mk symbol entity).expect symbol : Probe World Unit) = pure () :=
        if_pos symbol.same_self
      rw [bind, root, List.foldl_nil, Term.value, expected, pure_bind]
      exact eq_comm
    case isFalse nonempty =>
      rw [isRoot, List.isEmpty_iff] at nonempty
      rw [value_bind nonempty]
      exact walks_iff.symm

end Path

end Criteria

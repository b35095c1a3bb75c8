import Criteria.Proofs.Legibility
import Criteria.Proofs.Tracing

/-!
Texts that show which values they are about.

Two terms are of one form if they differ in nothing but the values that are written into them. Such
terms have different explanations, because no value is followed by a character that could be a part
of it. The same holds for the lines of a trace, which show explanations, and for the messages of
failures, which describe the values that an operation was given.
-/

namespace Criteria

variable {World : Type}

namespace Number

theorem stops_append {first : Char} {others : List Char} (stop : isNumeral first = false)
    (rest : List Char) : Stops (first :: others ++ rest) := by
  intro character head
  cases head
  exact stop

end Number

namespace Term

/-! ## Terms of one form -/

mutual
/-- The terms differ in literals and in operands of tests only, and these are legible. -/
inductive OfOneForm : Term World → Term World → Prop where
  | var {symbol : Variable} : OfOneForm (.var symbol) (.var symbol)
  | literal {left right : Value} (leftLegible : left.isLegible) (rightLegible : right.isLegible) :
      OfOneForm (.literal left) (.literal right)
  | member {left right : Term World} {name : String} (targets : OfOneForm left right) :
      OfOneForm (.member left name) (.member right name)
  | call {left right : Term World} {method : String} {lefts rights : List (Term World)}
      (targets : OfOneForm left right) (arguments : AllOfOneForm lefts rights) :
      OfOneForm (.call left method lefts) (.call right method rights)
  | compare {left right leftOther rightOther : Term World} {comparison : Comparison}
      (subjects : OfOneForm left right) (others : OfOneForm leftOther rightOther) :
      OfOneForm (.compare left comparison leftOther) (.compare right comparison rightOther)
  | test {left right : Term World} {operator : String} {check : ValueTest World}
      (subjects : OfOneForm left right) :
      OfOneForm (.test left operator none check) (.test right operator none check)
  | testWith {left right : Term World} {operator : String} {leftOperand rightOperand : Value}
      {check : ValueTest World} (subjects : OfOneForm left right)
      (leftLegible : leftOperand.isLegible) (rightLegible : rightOperand.isLegible) :
      OfOneForm (.test left operator (some leftOperand) check)
        (.test right operator (some rightOperand) check)
  | custom {symbol : Variable} {label : String} {check : EntityTest World} :
      OfOneForm (.custom symbol label check) (.custom symbol label check)
  | and {left right leftOther rightOther : Term World} (firsts : OfOneForm left right)
      (seconds : OfOneForm leftOther rightOther) :
      OfOneForm (.and left leftOther) (.and right rightOther)
  | or {left right leftOther rightOther : Term World} (firsts : OfOneForm left right)
      (seconds : OfOneForm leftOther rightOther) :
      OfOneForm (.or left leftOther) (.or right rightOther)
  | not {left right : Term World} (operands : OfOneForm left right) :
      OfOneForm (.not left) (.not right)
  | conditional {left right leftTrue rightTrue leftFalse rightFalse : Term World}
      (conditions : OfOneForm left right) (whenTrue : OfOneForm leftTrue rightTrue)
      (whenFalse : OfOneForm leftFalse rightFalse) :
      OfOneForm (.conditional left leftTrue leftFalse) (.conditional right rightTrue rightFalse)
  | add {left right leftOther rightOther : Term World} (firsts : OfOneForm left right)
      (seconds : OfOneForm leftOther rightOther) :
      OfOneForm (.add left leftOther) (.add right rightOther)

inductive AllOfOneForm : List (Term World) → List (Term World) → Prop where
  | nil : AllOfOneForm [] []
  | cons {left right : Term World} {lefts rights : List (Term World)}
      (firsts : OfOneForm left right) (others : AllOfOneForm lefts rights) :
      AllOfOneForm (left :: lefts) (right :: rights)
end

private theorem OfOneForm.isConditional_eq {left right : Term World} (form : OfOneForm left right) :
    left.isConditional = right.isConditional := by
  cases form <;> rfl

private theorem OfOneForm.isUnit_eq {left right : Term World} (form : OfOneForm left right) :
    left.isUnit = right.isUnit := by
  cases form <;> rfl

/-! ## Explanations -/

/-- The explanations of the two terms show which values are in them and where they end. -/
def ToldApart (left right : Term World) : Prop :=
  ∀ ⦃rest more : List Char⦄, Number.Stops rest → Number.Stops more →
    left.explain.toList ++ rest = right.explain.toList ++ more → left = right ∧ rest = more

def AllToldApart (lefts rights : List (Term World)) : Prop :=
  ∀ ⦃rest more : List Char⦄, Number.Stops rest → Number.Stops more →
    (", ".intercalate (explainAll lefts)).toList ++ rest =
      (", ".intercalate (explainAll rights)).toList ++ more → lefts = rights ∧ rest = more

private theorem toldApart_self (term : Term World) : ToldApart term term := by
  intro rest more _ _ equal
  exact ⟨rfl, List.append_cancel_left equal⟩

section

variable {left right leftOther rightOther : Term World}

private theorem toldApart_literal {left right : Value} (leftLegible : left.isLegible)
    (rightLegible : right.isLegible) :
    ToldApart (.literal left : Term World) (.literal right) := by
  intro rest more restStops moreStops equal
  rw [explain, explain, Value.text, Value.text, String.toList_ofList, String.toList_ofList] at equal
  rcases left.toldApart leftLegible rightLegible restStops moreStops equal with ⟨same, rests⟩
  exact ⟨congrArg Term.literal same, rests⟩

private theorem ToldApart.member (targets : ToldApart left right) (name : String) :
    ToldApart (.member left name) (.member right name) := by
  intro rest more _ _ equal
  simp only [explain, String.toList_append, List.append_assoc] at equal
  rcases targets (Number.stops_append rfl _) (Number.stops_append rfl _) equal with ⟨same, equal⟩
  simp only [List.append_cancel_left_eq] at equal
  exact ⟨by rw [same], equal⟩

private theorem ToldApart.call (targets : ToldApart left right) (method : String)
    {lefts rights : List (Term World)} (arguments : AllToldApart lefts rights) :
    ToldApart (.call left method lefts) (.call right method rights) := by
  intro rest more _ _ equal
  simp only [explain, String.toList_append, List.append_assoc] at equal
  rcases targets (Number.stops_append rfl _) (Number.stops_append rfl _) equal with ⟨same, equal⟩
  simp only [List.append_cancel_left_eq] at equal
  rcases arguments (Number.stops_append rfl _) (Number.stops_append rfl _) equal with
    ⟨sameArguments, equal⟩
  exact ⟨by rw [same, sameArguments], List.append_cancel_left equal⟩

private theorem ToldApart.compare (subjects : ToldApart left right)
    (others : ToldApart leftOther rightOther) (comparison : Comparison) :
    ToldApart (.compare left comparison leftOther) (.compare right comparison rightOther) := by
  intro rest more restStops moreStops equal
  simp only [explain, String.toList_append, List.append_assoc] at equal
  rcases subjects (Number.stops_append rfl _) (Number.stops_append rfl _) equal with ⟨same, equal⟩
  simp only [List.append_cancel_left_eq] at equal
  rcases others restStops moreStops equal with ⟨sameOther, equal⟩
  exact ⟨by rw [same, sameOther], equal⟩

private theorem ToldApart.test (subjects : ToldApart left right) (operator : String)
    (check : ValueTest World) :
    ToldApart (.test left operator none check) (.test right operator none check) := by
  intro rest more _ _ equal
  simp only [explain, String.toList_append, List.append_assoc] at equal
  rcases subjects (Number.stops_append rfl _) (Number.stops_append rfl _) equal with ⟨same, equal⟩
  simp only [List.append_cancel_left_eq] at equal
  exact ⟨by rw [same], equal⟩

private theorem ToldApart.testWith (subjects : ToldApart left right) (operator : String)
    (check : ValueTest World) {leftOperand rightOperand : Value}
    (leftLegible : leftOperand.isLegible) (rightLegible : rightOperand.isLegible) :
    ToldApart (.test left operator (some leftOperand) check)
      (.test right operator (some rightOperand) check) := by
  intro rest more restStops moreStops equal
  simp only [explain, Value.text, String.toList_append, String.toList_ofList, List.append_assoc]
    at equal
  rcases subjects (Number.stops_append rfl _) (Number.stops_append rfl _) equal with ⟨same, equal⟩
  simp only [List.append_cancel_left_eq] at equal
  rcases leftOperand.toldApart leftLegible rightLegible restStops moreStops equal with
    ⟨sameOperand, equal⟩
  exact ⟨by rw [same, sameOperand], equal⟩

private theorem ToldApart.link (firsts : ToldApart left right)
    (seconds : ToldApart leftOther rightOther) (neutral : Bool) :
    ToldApart (Term.link neutral left leftOther) (Term.link neutral right rightOther) := by
  intro rest more _ _ equal
  cases neutral
  all_goals
    simp only [Term.link, explain, String.toList_append, List.append_assoc,
      List.append_cancel_left_eq] at equal
    rcases firsts (Number.stops_append rfl _) (Number.stops_append rfl _) equal with ⟨same, equal⟩
    rcases seconds (Number.stops_append rfl _) (Number.stops_append rfl _)
      (List.append_cancel_left equal) with ⟨sameOther, equal⟩
    exact ⟨by rw [same, sameOther], List.append_cancel_left equal⟩

private theorem ToldApart.not (operands : ToldApart left right) :
    ToldApart (.not left) (.not right) := by
  intro rest more _ _ equal
  simp only [explain, String.toList_append, List.append_assoc, List.append_cancel_left_eq] at equal
  rcases operands (Number.stops_append rfl _) (Number.stops_append rfl _) equal with ⟨same, equal⟩
  exact ⟨by rw [same], List.append_cancel_left equal⟩

private theorem ToldApart.conditional {leftTrue rightTrue leftFalse rightFalse : Term World}
    (conditions : ToldApart left right) (whenTrue : ToldApart leftTrue rightTrue)
    (whenFalse : ToldApart leftFalse rightFalse) :
    ToldApart (.conditional left leftTrue leftFalse) (.conditional right rightTrue rightFalse) := by
  intro rest more restStops moreStops equal
  simp only [explain, String.toList_append, List.append_assoc, List.append_cancel_left_eq] at equal
  rcases conditions (Number.stops_append rfl _) (Number.stops_append rfl _) equal with
    ⟨same, equal⟩
  rcases whenTrue (Number.stops_append rfl _) (Number.stops_append rfl _)
    (List.append_cancel_left equal) with ⟨sameTrue, equal⟩
  rcases whenFalse restStops moreStops (List.append_cancel_left equal) with ⟨sameFalse, equal⟩
  exact ⟨by rw [same, sameTrue, sameFalse], equal⟩

theorem ToldApart.grouped (parts : ToldApart left right)
    (same : left.isConditional = right.isConditional) {rest more : List Char}
    (restStops : Number.Stops rest) (moreStops : Number.Stops more)
    (equal : (left.grouped left.explain).toList ++ rest =
      (right.grouped right.explain).toList ++ more) : left = right ∧ rest = more := by
  unfold Term.grouped at equal
  rw [same] at equal
  split at equal
  case isTrue =>
    simp only [String.toList_append, List.append_assoc, List.append_cancel_left_eq] at equal
    rcases parts (Number.stops_append rfl _) (Number.stops_append rfl _) equal with ⟨same, equal⟩
    exact ⟨same, List.append_cancel_left equal⟩
  case isFalse => exact parts restStops moreStops equal

private theorem ToldApart.add (firsts : ToldApart left right)
    (seconds : ToldApart leftOther rightOther)
    (firstsAlike : left.isConditional = right.isConditional)
    (secondsAlike : leftOther.isConditional = rightOther.isConditional) :
    ToldApart (.add left leftOther) (.add right rightOther) := by
  intro rest more restStops moreStops equal
  simp only [explain, String.toList_append, List.append_assoc] at equal
  rcases firsts.grouped firstsAlike (Number.stops_append rfl _) (Number.stops_append rfl _) equal
    with ⟨same, equal⟩
  rcases seconds.grouped secondsAlike restStops moreStops (List.append_cancel_left equal) with
    ⟨sameOther, equal⟩
  exact ⟨by rw [same, sameOther], equal⟩

private theorem AllToldApart.single (firsts : ToldApart left right) :
    AllToldApart [left] [right] := by
  intro rest more restStops moreStops equal
  simp only [explainAll, String.intercalate_singleton] at equal
  rcases firsts restStops moreStops equal with ⟨same, equal⟩
  exact ⟨by rw [same], equal⟩

private theorem AllToldApart.cons (firsts : ToldApart left right) {lefts rights : List (Term World)}
    (others : AllToldApart (leftOther :: lefts) (rightOther :: rights)) :
    AllToldApart (left :: leftOther :: lefts) (right :: rightOther :: rights) := by
  intro rest more restStops moreStops equal
  simp only [explainAll, String.intercalate_cons_cons, String.toList_append, List.append_assoc]
    at equal
  rcases firsts (Number.stops_append rfl _) (Number.stops_append rfl _) equal with ⟨same, equal⟩
  rcases others restStops moreStops (List.append_cancel_left equal) with ⟨sameOthers, equal⟩
  exact ⟨by rw [same, sameOthers], equal⟩

end

mutual
theorem OfOneForm.toldApart {left right : Term World} (form : OfOneForm left right) :
    ToldApart left right :=
  match form with
  | .var => toldApart_self _
  | .literal leftLegible rightLegible => toldApart_literal leftLegible rightLegible
  | .member targets => targets.toldApart.member _
  | .call targets arguments => targets.toldApart.call _ arguments.toldApart
  | .compare subjects others => subjects.toldApart.compare others.toldApart _
  | .test subjects => subjects.toldApart.test _ _
  | .testWith subjects leftLegible rightLegible =>
      subjects.toldApart.testWith _ _ leftLegible rightLegible
  | .custom => toldApart_self _
  | .and firsts seconds => firsts.toldApart.link seconds.toldApart true
  | .or firsts seconds => firsts.toldApart.link seconds.toldApart false
  | .not operands => operands.toldApart.not
  | .conditional conditions whenTrue whenFalse =>
      conditions.toldApart.conditional whenTrue.toldApart whenFalse.toldApart
  | .add firsts seconds =>
      firsts.toldApart.add seconds.toldApart firsts.isConditional_eq seconds.isConditional_eq

theorem AllOfOneForm.toldApart {lefts rights : List (Term World)}
    (forms : AllOfOneForm lefts rights) : AllToldApart lefts rights :=
  match forms with
  | .nil => fun _ _ _ _ equal => ⟨rfl, List.append_cancel_left equal⟩
  | .cons firsts .nil => AllToldApart.single firsts.toldApart
  | .cons firsts (.cons seconds others) =>
      AllToldApart.cons firsts.toldApart (AllOfOneForm.cons seconds others).toldApart
end

private theorem OfOneForm.eq_of_explain_eq {left right : Term World} (form : OfOneForm left right)
    (equal : left.explain = right.explain) : left = right := by
  have ends : Number.Stops [] := nofun
  have shown := congrArg (fun text : String => text.toList ++ []) equal
  exact (form.toldApart ends ends shown).1

/-! ## Lines of a trace -/

private theorem text_of_trace [Records World] {term : Term World} (unit : term.isUnit)
    {scope : Scope} {mode : TraceMode} {world : World} {verdict : Bool} {entries : Trace}
    (traced : (term.trace scope mode world).answer = .ok (verdict, entries)) :
    Trace.text entries = TraceEntry.line ⟨term.explain, verdict⟩ := by
  rw [trace_of_isUnit scope unit] at traced
  rcases ran : term.holds scope world with ⟨failure | passed, touches, after⟩
  · rw [Probe.bind_of_error ran] at traced
    cases traced
  · rw [Probe.bind_of_ok ran] at traced
    cases traced
    simp [Trace.text, String.join]

theorem OfOneForm.eq_of_line_eq {left right : Term World} (form : OfOneForm left right)
    {leftPassed rightPassed : Bool}
    (equal : TraceEntry.line ⟨left.explain, leftPassed⟩ =
      TraceEntry.line ⟨right.explain, rightPassed⟩) : left = right := by
  have shown := congrArg String.toList equal
  simp only [TraceEntry.line, String.toList_append, List.append_assoc] at shown
  have marks : ∀ leftPassed rightPassed : Bool,
      (if leftPassed then "[PASS] " else "[FAIL] ").toList.length =
        (if rightPassed then "[PASS] " else "[FAIL] ").toList.length := by decide
  have conditions := (List.append_inj shown (marks leftPassed rightPassed)).2
  have stop : Number.Stops ['\n'] := by
    intro character head
    cases head
    rfl
  exact (form.toldApart stop stop conditions).1

end Term

/-! ## Messages -/

namespace Value

variable {left right leftOther rightOther : Value.Legible}

private theorem Legible.eq_of_describe_eq {before : String}
    (equal : before ++ left.val.describe = before ++ right.val.describe) : left = right := by
  have ends : Number.Stops [] := nofun
  have shown := congrArg (fun text : String => text.toList ++ []) equal
  simp only [String.toList_append, List.append_assoc, List.append_cancel_left_eq] at shown
  exact Subtype.ext (describe_append_inj left.property right.property ends ends shown).1

theorem Legible.eq_of_describe_both_eq {before between : String} {first : Char}
    {others : List Char} (parts : between.toList = first :: others)
    (stop : Number.isNumeral first = false)
    (equal : before ++ left.val.describe ++ between ++ leftOther.val.describe =
      before ++ right.val.describe ++ between ++ rightOther.val.describe) :
    left = right ∧ leftOther = rightOther := by
  have ends : Number.Stops [] := nofun
  have shown := congrArg (fun text : String => text.toList ++ []) equal
  simp only [String.toList_append, List.append_assoc, List.append_cancel_left_eq, parts] at shown
  rcases describe_append_inj left.property right.property (Number.stops_append stop _)
    (Number.stops_append stop _) shown with ⟨same, shown⟩
  rcases describe_append_inj leftOther.property rightOther.property ends ends
    (List.append_cancel_left shown) with ⟨sameOther, _⟩
  exact ⟨Subtype.ext same, Subtype.ext sameOther⟩

end Value

/-! ## Nothing looks like another -/

/-- Values without floats and records are the same if their texts are. -/
theorem legible_values_never_look_alike [Records World] :
    (∀ left right : Value.Legible, left.val.text = right.val.text → left = right) ∧
    (∀ left right : Term World, Term.OfOneForm left right →
      left.explain = right.explain → left = right) ∧
    (∀ left right : Term World, Term.OfOneForm left right → left.isUnit →
      ∀ (scope otherScope : Scope) (mode otherMode : TraceMode) (world otherWorld : World)
        (verdict otherVerdict : Bool) (entries otherEntries : Trace),
      (left.trace scope mode world).answer = .ok (verdict, entries) →
      (right.trace otherScope otherMode otherWorld).answer = .ok (otherVerdict, otherEntries) →
      Trace.text entries = Trace.text otherEntries → left = right) ∧
    (∀ left right : Value.Legible,
      (Failure.notBoolean left.val).message = (Failure.notBoolean right.val).message →
        left = right) ∧
    (∀ (member : String) (left right : Value.Legible),
      (Failure.notARecord member left.val).message =
        (Failure.notARecord member right.val).message → left = right) ∧
    (∀ left right leftOther rightOther : Value.Legible,
      (Failure.incomparable left.val leftOther.val).message =
        (Failure.incomparable right.val rightOther.val).message →
          left = right ∧ leftOther = rightOther) ∧
    ∀ left right leftOther rightOther : Value.Legible,
      (Failure.arithmetic left.val leftOther.val).message =
        (Failure.arithmetic right.val rightOther.val).message →
          left = right ∧ leftOther = rightOther := by
  refine ⟨?_, ?_, ?_, ?_, ?_, ?_, ?_⟩
  · intro left right equal
    exact Subtype.ext (Value.text_inj left.property right.property equal)
  · intro left right form
    exact form.eq_of_explain_eq
  · intro left right form leftUnit scope otherScope mode otherMode world otherWorld
      verdict otherVerdict entries otherEntries traced otherTraced equal
    have rightUnit := form.isUnit_eq.symm.trans leftUnit
    rw [Term.text_of_trace leftUnit traced, Term.text_of_trace rightUnit otherTraced] at equal
    exact form.eq_of_line_eq equal
  · intro left right
    exact Value.Legible.eq_of_describe_eq
  · intro member left right
    exact Value.Legible.eq_of_describe_eq
  · intro left right leftOther rightOther
    exact Value.Legible.eq_of_describe_both_eq rfl rfl
  · intro left right leftOther rightOther
    exact Value.Legible.eq_of_describe_both_eq rfl rfl

section

open Sample

def bracketed : Value.Legible :=
  ⟨.list [.none, .datetime 5, .string "], ["], rfl⟩

def rebracketed : Value.Legible :=
  ⟨.list ([.none] ++ [.datetime (2 + 3), .string ("], " ++ "[")]), rfl⟩

def flagCompared (value : Value) : Term Gallery :=
  .compare (.member (.var ⟨0, "x"⟩) "a") .ne (.literal value)

theorem bracketed_told :
    (bracketed.val.text = rebracketed.val.text ∧ bracketed = rebracketed) ∧
    ((flagCompared bracketed.val).explain = (flagCompared rebracketed.val).explain ∧
      flagCompared bracketed.val = flagCompared rebracketed.val) ∧
    (((flagCompared bracketed.val).trace ⟨⟨0, "x"⟩, ⟨0⟩⟩ .exhaustive Criterion.twoFlags).answer =
        .ok (true, [⟨(flagCompared rebracketed.val).explain, true⟩]) ∧
      flagCompared bracketed.val = flagCompared rebracketed.val) ∧
    (Failure.incomparable bracketed.val rebracketed.val).message =
        (Failure.incomparable rebracketed.val bracketed.val).message ∧
      bracketed = rebracketed ∧ rebracketed = bracketed := by
  rcases @legible_values_never_look_alike Gallery _ with
    ⟨texts, explanations, traces, _, _, messages, _⟩
  have form : Term.OfOneForm (flagCompared bracketed.val) (flagCompared rebracketed.val) :=
    .compare (.member .var) (.literal rfl rfl)
  have traced : ((flagCompared bracketed.val).trace ⟨⟨0, "x"⟩, ⟨0⟩⟩ .exhaustive
      Criterion.twoFlags).answer =
        .ok (true, [⟨(flagCompared rebracketed.val).explain, true⟩]) := rfl
  refine ⟨⟨rfl, texts _ _ rfl⟩, ⟨rfl, explanations _ _ form rfl⟩, ⟨traced, ?_⟩, rfl,
    messages _ _ _ _ rfl⟩
  exact traces _ _ form rfl _ _ _ _ _ _ _ _ _ _ traced traced rfl

end

end Criteria

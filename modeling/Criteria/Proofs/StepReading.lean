import Criteria.Proofs.Cutting
import Criteria.Proofs.Sameness
import Mathlib.Algebra.GroupWithZero.Nat

/-!
What reading a path gives, and the backslashes in it.

A step that was read is a member with its own text, or a call whose arguments are values that text
can stand for. Reading decodes nothing, so it finds every backslash of the text in a name or in a
string, and writing adds one for every character that it marks. A path that is read back from its
written form can therefore contain no string in which a character is marked.
-/

namespace Criteria

open Text

/-! ## What reading gives -/

namespace Path

variable {mark : Char} {text : List Char}

theorem eq_of_beforeLast {before : List Char} (found : beforeLast mark text = some before) :
    text = before ++ [mark] := by
  unfold beforeLast at found
  split at found
  case h_1 last rest reversed =>
      split at found
      case isTrue same =>
          cases found
          rw [← List.reverse_reverse text, reversed, same, List.reverse_cons]
      case isFalse => cases found
  case h_2 => cases found

private theorem eq_of_cutAt {before behind : List Char}
    (found : cutAt mark text = some (before, behind)) :
    text = before ++ mark :: behind ∧ mark ∉ before := by
  unfold cutAt at found
  split at found
  case h_1 first rest dropped =>
      cases found
      have stopped := head?_dropWhile (· ≠ mark) text first (by rw [dropped]; rfl)
      rw [decide_eq_false_iff_not, not_not] at stopped
      rw [stopped] at dropped
      refine ⟨?_, fun member => ?_⟩
      · rw [← dropped, List.takeWhile_append_dropWhile]
      · have other := List.mem_takeWhile_imp member
        exact absurd rfl (of_decide_eq_true other)
  case h_2 => cases found

theorem eq_of_between {inner : List Char} (found : between mark text = some inner) :
    text = mark :: (inner ++ [mark]) := by
  unfold between at found
  split at found
  case h_1 first rest =>
      split at found
      case isTrue same => rw [same, eq_of_beforeLast found]
      case isFalse => cases found
  case h_2 => cases found

theorem readStep_cases (text : List Char) :
    readStep text = .member (String.ofList text) ∨
      ∃ method arguments, text = method ++ '(' :: (arguments ++ [')']) ∧ '(' ∉ method ∧
        readStep text =
          .call (String.ofList (trim method)) ((pieces ',' arguments).map readLiteral) := by
  unfold readStep
  split
  case h_1 method arguments found =>
      rcases Option.bind_eq_some_iff.mp found with ⟨inside, closed, opened⟩
      rcases eq_of_cutAt opened with ⟨split, absent⟩
      refine .inr ⟨method, arguments, ?_, absent, rfl⟩
      rw [eq_of_beforeLast closed, split, List.append_assoc, List.cons_append]
  case h_2 => exact .inl rfl

theorem eq_of_readWord {string : String} (read : readWord text = .string string) :
    string = String.ofList text := by
  unfold readWord at read
  dsimp only at read
  repeat' split at read
  all_goals cases read
  rfl

end Path

namespace Value

inductive IsScalar : Value → Prop where
  | none : IsScalar .none
  | bool {value : Bool} : IsScalar (.bool value)
  | int {value : Int64} : IsScalar (.int value)
  | float {value : Float} : IsScalar (.float value)
  | string {text : String} : IsScalar (.string text)

private theorem isScalar_readLiteral (text : List Char) : (Path.readLiteral text).IsScalar := by
  unfold Path.readLiteral Path.readWord
  dsimp only
  repeat' split
  all_goals constructor

end Value

namespace PathStep

def arguments : PathStep → List Value
  | .member _ => []
  | .call _ arguments => arguments

/-- What a step that was read from a text is like. -/
inductive IsRead : PathStep → Prop where
  | member {name : String} (some : name.toList ≠ []) (trimmed : Trimmed name.toList)
      (unbroken : Unbroken '.' .outside name.toList)
      (read : Path.readStep name.toList = .member name) : IsRead (.member name)
  | call {method : String} {arguments : List Value} (trimmed : Trimmed method.toList)
      (absent : '(' ∉ method.toList) (unbroken : Unbroken '.' .outside method.toList)
      (scalar : ∀ argument ∈ arguments, argument.IsScalar) : IsRead (.call method arguments)

def IsClosed : PathStep → Prop
  | .member _ => True
  | .call method _ => Nesting.outside.after method.toList = .outside

instance : DecidablePred IsClosed
  | .member _ => isTrue True.intro
  | .call method _ => inferInstanceAs (Decidable (Nesting.outside.after method.toList = .outside))

private theorem isRead_readStep {text : List Char} (some : text ≠ []) (trimmed : Trimmed text)
    (unbroken : Unbroken '.' .outside text) : (Path.readStep text).IsRead := by
  rcases Path.readStep_cases text with read | ⟨method, arguments, split, absent, read⟩
  · rw [read]
    have back : (String.ofList text).toList = text := String.toList_ofList
    refine .member ?_ ?_ ?_ ?_ <;> rw [back]
    · exact some
    · exact trimmed
    · exact unbroken
    · exact read
  · rw [read]
    rw [split, unbroken_append] at unbroken
    have back : (String.ofList (trim method)).toList = trim method := String.toList_ofList
    refine .call ?_ ?_ ?_ ?_
    · rw [back]
      exact trimmed_trim method
    · rw [back]
      exact fun member => absent (mem_of_mem_trim member)
    · rw [back]
      exact unbroken.1.trim
    · intro argument member
      rcases List.mem_map.mp member with ⟨part, _, rfl⟩
      exact Value.isScalar_readLiteral part

theorem IsRead.isScalar {step : PathStep} (read : step.IsRead) {argument : Value}
    (member : argument ∈ step.arguments) : argument.IsScalar := by
  cases read with
  | member => cases member
  | call _ _ _ scalar => exact scalar argument member

def EndsOutside : PathStep → Prop
  | .member name => Nesting.outside.after name.toList = .outside
  | .call _ _ => True

private theorem endsOutside_readStep {text : List Char}
    (ends : Nesting.outside.after text = .outside) : (Path.readStep text).EndsOutside := by
  rcases Path.readStep_cases text with read | ⟨method, arguments, _, _, read⟩
  · rw [read, EndsOutside, String.toList_ofList]
    exact ends
  · rw [read]
    exact True.intro

inductive AreRead : List PathStep → Prop where
  | nil : AreRead []
  | cons {step : PathStep} {steps : List PathStep} (first : step.IsRead)
      (ends : steps ≠ [] → step.EndsOutside) (rest : AreRead steps) : AreRead (step :: steps)

theorem AreRead.isRead {steps : List PathStep} (areRead : AreRead steps) {step : PathStep}
    (member : step ∈ steps) : step.IsRead := by
  induction areRead with
  | nil => cases member
  | cons first _ _ induction =>
      rcases List.mem_cons.mp member with rfl | member
      · exact first
      · exact induction member

theorem areRead_parse (text : List Char) :
    AreRead ((Path.pieces '.' text).map Path.readStep) := by
  induction text using cut_induction '.' with
  | whole text unbroken =>
      by_cases shown : trim text = []
      · rw [Path.pieces_of_blank unbroken shown]
        exact .nil
      · rw [Path.pieces_of_shown unbroken shown]
        exact .cons (isRead_readStep shown (trimmed_trim text) unbroken.trim)
          (fun more => absurd rfl more) .nil
  | cut first rest unbroken ends restRead =>
      rw [Path.pieces_append (by decide) ends, List.map_append]
      by_cases shown : trim first = []
      · rw [Path.pieces_of_blank unbroken shown]
        exact restRead
      · rw [Path.pieces_of_shown unbroken shown]
        have endsTrimmed := (Nesting.after_trim first).trans ends
        exact .cons (isRead_readStep shown (trimmed_trim first) unbroken.trim)
          (fun _ => endsOutside_readStep endsTrimmed) restRead

end PathStep

/-! ## Backslashes -/

def Text.isMarked (character : Char) : Bool :=
  escape character != [character]

namespace Value

def slashes : Value → Nat
  | .string text => text.toList.count '\\'
  | _ => 0

/-- The characters of a string that writing marks. -/
def marked : Value → Nat
  | .string text => text.toList.countP isMarked
  | _ => 0

end Value

namespace PathStep

def slashes : PathStep → Nat
  | .member name => name.toList.count '\\'
  | .call method arguments =>
      method.toList.count '\\' + (arguments.map Value.slashes).sum

def marked (step : PathStep) : Nat :=
  (step.arguments.map Value.marked).sum

end PathStep

namespace Text

private theorem count_eq_zero_of_signs {text : List Char}
    (signs : ∀ character ∈ text, isWordSign character) : text.count '\\' = 0 := by
  rw [List.count_eq_zero]
  intro member
  exact absurd (signs _ member) (by decide)

private theorem count_eq_zero_of_blank {text : List Char}
    (blank : ∀ character ∈ text, isBlank character) : text.count '\\' = 0 := by
  rw [List.count_eq_zero]
  intro member
  exact absurd (blank _ member) (by decide)

theorem count_trim (text : List Char) : (trim text).count '\\' = text.count '\\' := by
  rcases exists_around_trim text with ⟨front, back, split, frontBlank, backBlank⟩
  have whole := congrArg (List.count '\\') split
  rw [List.count_append, List.count_append, count_eq_zero_of_blank frontBlank,
    count_eq_zero_of_blank backBlank] at whole
  omega

private theorem mem_escape {character : Char} (marked : isMarked character) :
    '\\' ∈ escape character := by
  revert marked
  unfold isMarked escape codePoint
  repeat' split
  all_goals simp

private theorem count_escape {character : Char} (marked : isMarked character) :
    [character].count '\\' + 1 ≤ (escape character).count '\\' := by
  by_cases slash : character = '\\'
  · rw [slash]
    decide
  · rw [List.count_singleton, beq_false_of_ne slash]
    exact List.count_pos_iff.mpr (mem_escape marked)

theorem count_escapeAll (text : List Char) :
    text.count '\\' + text.countP isMarked ≤
      (escapeAll text).count '\\' := by
  induction text with
  | nil => exact Nat.le_refl 0
  | cons character text induction =>
      have first : (character :: text).count '\\' =
          [character].count '\\' + text.count '\\' := by
        rw [← List.singleton_append, List.count_append]
      rw [escapeAll_cons, List.count_append, first]
      by_cases marked : isMarked character
      · have more := count_escape marked
        rw [List.countP_cons_of_pos marked]
        omega
      · have same : escape character = [character] := by simpa [isMarked] using marked
        rw [List.countP_cons_of_neg marked, same]
        omega

theorem sum_count_pieces {separator : Char} (unmarked : isMark separator = false)
    (other : separator ≠ '\\') (text : List Char) :
    ((Path.pieces separator text).map (List.count '\\')).sum = text.count '\\' := by
  have part {text : List Char} (unbroken : Unbroken separator .outside text) :
      ((Path.pieces separator text).map (List.count '\\')).sum = text.count '\\' := by
    rw [← count_trim text]
    by_cases shown : trim text = []
    · rw [Path.pieces_of_blank unbroken shown, shown]
      rfl
    · rw [Path.pieces_of_shown unbroken shown, List.map_singleton, List.sum_singleton]
  induction text using cut_induction separator with
  | whole text unbroken => exact part unbroken
  | cut first rest unbroken ends restSum =>
      rw [Path.pieces_append unmarked ends, List.map_append, List.sum_append, part unbroken,
        restSum, List.count_append, List.count_cons_of_ne other]

end Text

namespace Value

private theorem slashes_readWord (text : List Char) :
    (Path.readWord text).slashes = text.count '\\' := by
  by_cases string : ∃ string, Path.readWord text = .string string
  · rcases string with ⟨string, read⟩
    rw [read, slashes, Path.eq_of_readWord read, String.toList_ofList]
  · have none : (Path.readWord text).slashes = 0 := by
      cases read : Path.readWord text with
      | string found => exact absurd ⟨found, read⟩ string
      | _ => rfl
    rw [none]
    exact (count_eq_zero_of_signs
      (Path.isWordSign_of_readWord fun found read => string ⟨found, read⟩)).symm

theorem slashes_readLiteral (text : List Char) :
    (Path.readLiteral text).slashes = text.count '\\' := by
  have quoted {quote : Char} {inner : List Char} (other : quote ≠ '\\')
      (found : Path.between quote text = some inner) :
      (Value.string (String.ofList inner)).slashes = text.count '\\' := by
    rw [Path.eq_of_between found, List.count_cons_of_ne other, List.count_append,
      List.count_singleton, beq_false_of_ne other, slashes, String.toList_ofList]
    rfl
  unfold Path.readLiteral
  split
  case h_1 inner found => exact quoted (by decide) found
  case h_2 =>
      split
      case h_1 inner found => exact quoted (by decide) found
      case h_2 => exact slashes_readWord text

private theorem slashes_eq_of_equal {left right : Value} (equal : left.equal right) :
    left.slashes = right.slashes := by
  cases left <;> cases right <;> simp_all [Value.equal, slashes]

private theorem slashes_add_marked_le (value : Value) :
    value.slashes + value.marked ≤ value.characters.count '\\' := by
  cases value with
  | string text =>
      have ends : (characters (.string text)).count '\\' =
          (escapeAll text.toList).count '\\' := by
        simp [characters, quoted]
      rw [ends]
      exact count_escapeAll text.toList
  | _ => exact Nat.zero_le _

theorem isPlain_of_marked {value : Value} (scalar : value.IsScalar) (floatFree : value.isFloatFree)
    (unmarked : value.marked = 0) : value.IsPlain := by
  cases scalar with
  | none => exact True.intro
  | bool => exact True.intro
  | int => exact True.intro
  | float => cases floatFree
  | string =>
      rw [isPlain_string_iff]
      rw [marked, List.countP_eq_zero] at unmarked
      intro character member
      simpa [isMarked] using unmarked character member

end Value

private theorem Value.count_separated (parts : List (List Char)) :
    (separated parts).count '\\' = (parts.map (List.count '\\')).sum := by
  induction parts using separated.induct with
  | case1 => rfl
  | case2 last => simp [separated]
  | case3 first second rest induction =>
      rw [separated, List.count_append, List.count_cons_of_ne (by decide),
        List.count_cons_of_ne (by decide), induction]
      rfl

namespace PathStep

private theorem slashes_readStep (text : List Char) :
    (Path.readStep text).slashes = text.count '\\' := by
  rcases Path.readStep_cases text with read | ⟨method, arguments, split, _, read⟩
  · rw [read, slashes, String.toList_ofList]
  · have each : Value.slashes ∘ Path.readLiteral = List.count '\\' :=
      funext Value.slashes_readLiteral
    rw [read, slashes, String.toList_ofList, count_trim, List.map_map, each,
      sum_count_pieces (by decide) (by decide), split, List.count_append,
      List.count_cons_of_ne (by decide), List.count_append]
    rfl

private theorem sum_slashes_add_marked_le (arguments : List Value) :
    (arguments.map Value.slashes).sum + (arguments.map Value.marked).sum ≤
      ((arguments.map Value.characters).map (List.count '\\')).sum := by
  induction arguments with
  | nil => exact Nat.le_refl 0
  | cons argument arguments induction =>
      have first := argument.slashes_add_marked_le
      simp only [List.map_cons, List.sum_cons]
      omega

private theorem slashes_add_marked_le (step : PathStep) :
    step.slashes + step.marked ≤ step.characters.count '\\' := by
  cases step with
  | member name => exact Nat.le_refl _
  | call method arguments =>
      have inside := sum_slashes_add_marked_le arguments
      rw [slashes, marked, PathStep.arguments, characters, List.count_append, List.count_append,
        List.count_cons_of_ne (by decide), Value.count_separated]
      omega

private theorem sum_slashes_of_equalLists {lefts rights : List Value}
    (equal : Value.equalLists lefts rights) :
    (lefts.map Value.slashes).sum = (rights.map Value.slashes).sum := by
  induction lefts generalizing rights with
  | nil =>
      cases rights with
      | nil => rfl
      | cons => cases equal
  | cons left lefts induction =>
      cases rights with
      | nil => cases equal
      | cons right rights =>
          rw [Value.equalLists, Bool.and_eq_true] at equal
          rw [List.map_cons, List.map_cons, List.sum_cons, List.sum_cons,
            Value.slashes_eq_of_equal equal.1, induction equal.2]

private theorem slashes_eq_of_same {left right : PathStep} (same : left.same right) :
    left.slashes = right.slashes := by
  cases left with
  | member name =>
      cases right with
      | member => rw [eq_of_beq same]
      | call => cases same
  | call method arguments =>
      cases right with
      | member => cases same
      | call other others =>
          rw [PathStep.same, Bool.and_eq_true, beq_iff_eq] at same
          rw [slashes, slashes, same.1, sum_slashes_of_equalLists same.2]

end PathStep

namespace Path

private theorem sum_slashes_of_sameSteps {lefts rights : List PathStep}
    (same : sameSteps lefts rights) :
    (lefts.map PathStep.slashes).sum = (rights.map PathStep.slashes).sum := by
  induction lefts generalizing rights with
  | nil =>
      cases rights with
      | nil => rfl
      | cons => cases same
  | cons left lefts induction =>
      cases rights with
      | nil => cases same
      | cons right rights =>
          rw [sameSteps, Bool.and_eq_true] at same
          rw [List.map_cons, List.map_cons, List.sum_cons, List.sum_cons,
            PathStep.slashes_eq_of_same same.1, induction same.2]

theorem sum_slashes_parse (text : List Char) :
    (((pieces '.' text).map readStep).map PathStep.slashes).sum = text.count '\\' := by
  have each : PathStep.slashes ∘ readStep = List.count '\\' := funext PathStep.slashes_readStep
  rw [List.map_map, each, sum_count_pieces (by decide) (by decide)]

private theorem sum_slashes_add_marked_le (steps : List PathStep) :
    (steps.map PathStep.slashes).sum + (steps.map PathStep.marked).sum ≤
      (charactersOfSteps steps).count '\\' := by
  induction steps using charactersOfSteps.induct with
  | case1 => exact Nat.le_refl 0
  | case2 last =>
      have least := last.slashes_add_marked_le
      simpa [charactersOfSteps] using least
  | case3 first second rest induction =>
      have least := first.slashes_add_marked_le
      rw [charactersOfSteps, List.count_append, List.count_cons_of_ne (by decide)]
      simp only [List.map_cons, List.sum_cons] at induction ⊢
      omega

/-- A path that survives is written without marks, or it would come back with more backslashes. -/
theorem marked_eq_zero_of_same {steps : List PathStep}
    (same : sameSteps ((pieces '.' (charactersOfSteps steps)).map readStep) steps) :
    ∀ step ∈ steps, ∀ argument ∈ step.arguments, argument.marked = 0 := by
  have count := sum_slashes_of_sameSteps same
  have least := sum_slashes_add_marked_le steps
  rw [sum_slashes_parse] at count
  have none : (steps.map PathStep.marked).sum = 0 := by omega
  intro step member argument listed
  have noneInStep := List.sum_eq_zero_iff_forall_eq_nat.mp none _ (List.mem_map_of_mem member)
  exact List.sum_eq_zero_iff_forall_eq_nat.mp noneInStep _ (List.mem_map_of_mem listed)

end Path

end Criteria

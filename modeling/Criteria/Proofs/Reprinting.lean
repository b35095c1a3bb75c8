import Criteria.Proofs.StepReading

/-!
Which paths survive being written and read again.

A string between quotes is read without undoing what writing did to it, so a path in which writing
marks a character is not read back. A method may also leave a quote open, and then the written
arguments may be cut at other points than those they were read at. What is left is a path that
survives: one whose arguments are written as they are and whose written form falls apart into the
written steps. If no method opens a quote, the written form always does.
-/

namespace Criteria

open Text

/-! ## Arguments that were cut at a wrong point

Between the parentheses of a call that is written in full a closing parenthesis stands in a string
only. Arguments that are cut before one, or that go on behind the last one, are read as others. -/

namespace Value

private theorem eq_of_equal_string {value : Value} {text : String}
    (equal : value.equal (.string text)) : value = .string text := by
  cases value with
  | string found => rw [eq_of_beq equal]
  | _ => cases equal

theorem eq_of_readLiteral_quote {rest : List Char} {text : String} (absent : '"' ∉ text.toList)
    (equal : (Path.readLiteral ('"' :: rest)).equal (.string text)) :
    rest = text.toList ++ ['"'] := by
  have read := eq_of_equal_string equal
  unfold Path.readLiteral at read
  split at read
  case h_1 inner found =>
      cases read
      rw [String.toList_ofList]
      exact (List.cons.inj (Path.eq_of_between found)).2
  case h_2 =>
      rw [Path.between, if_neg (by decide)] at read
      have same := Path.eq_of_readWord read
      rw [same, String.toList_ofList] at absent
      exact absurd List.mem_cons_self absent

theorem not_equal_of_parenthesis {first : Char} {rest : List Char} {value : Value}
    (unmarked : isMark first = false) (member : ')' ∈ first :: rest)
    (noString : ∀ text, value ≠ .string text) :
    ¬ (Path.readLiteral (first :: rest)).equal value := by
  intro equal
  have unquoted (quote : Char) (mark : isMark quote) : first ≠ quote := by
    intro same
    rw [same, mark] at unmarked
    cases unmarked
  rw [Path.readLiteral, Path.between, if_neg (unquoted '"' rfl)] at equal
  dsimp only at equal
  rw [Path.between, if_neg (unquoted '\'' rfl)] at equal
  dsimp only at equal
  by_cases string : ∃ string, Path.readWord (first :: rest) = .string string
  · rcases string with ⟨string, read⟩
    rw [read] at equal
    cases value with
    | string text => exact noString text rfl
    | _ => cases equal
  · have signs := Path.isWordSign_of_readWord fun found read => string ⟨found, read⟩
    exact absurd (signs ')' member) (by decide)

private theorem not_equal_of_more {value : Value} (plain : value.IsPlain) (more : List Char) :
    ¬ (Path.readLiteral (value.characters ++ ')' :: more)).equal value := by
  by_cases noString : ∀ text, value ≠ .string text
  · rcases signs_characters plain noString with ⟨some, signs⟩
    rcases List.exists_cons_of_ne_nil some with ⟨first, rest, split⟩
    have unmarked := (signs first (by rw [split]; exact List.mem_cons_self)).2.1
    rw [split, List.cons_append]
    exact not_equal_of_parenthesis unmarked (by simp) noString
  · push Not at noString
    rcases noString with ⟨text, rfl⟩
    have same : (Value.string text).characters = '"' :: (text.toList ++ ['"']) := plain
    rw [same, List.cons_append]
    intro equal
    have ends := congrArg List.length (eq_of_readLiteral_quote (not_mem_of_isPlain plain) equal)
    simp at ends

end Value

namespace Path

private theorem not_equalLists_of_cut_within {value : Value} (plain : value.IsPlain)
    {front back : List Char} (split : value.characters = front ++ ')' :: back)
    (others : List Value) :
    ¬ Value.equalLists ((pieces ',' front).map readLiteral) (value :: others) := by
  by_cases noString : ∀ text, value ≠ .string text
  · have signs := (Value.signs_characters plain noString).2 ')' (by rw [split]; simp)
    exact absurd signs.2.1 (by decide)
  · push Not at noString
    rcases noString with ⟨text, rfl⟩
    have absent := Value.not_mem_of_isPlain plain
    have same : (Value.string text).characters = '"' :: (text.toList ++ ['"']) := plain
    rw [same] at split
    cases front with
    | nil => exact Bool.false_ne_true
    | cons first front =>
        rcases List.cons.inj split with ⟨rfl, inside⟩
        have noQuote : '"' ∉ front := by
          rcases List.append_eq_append_iff.mp inside with ⟨more, _, ends⟩ | ⟨more, whole, _⟩
          · exact absurd (congrArg (')' ∈ ·) ends) (by simp)
          · rw [whole, List.mem_append, not_or] at absent
            exact absent.1
        have unbroken : Unbroken ',' .outside ('"' :: front) := by
          have whole : Unbroken ',' .outside ('"' :: (front ++ ['"'])) :=
            unbroken_quoted noQuote (by decide)
          rw [← List.cons_append, unbroken_append] at whole
          exact whole.1
        rcases trim_append (List.cons_ne_nil '"' []) (by decide) front with
          ⟨kept, back, trimmed, rest, _⟩
        rw [List.singleton_append, List.singleton_append] at trimmed
        rw [pieces_of_shown unbroken (by rw [trimmed]; exact List.cons_ne_nil _ _), trimmed]
        intro equal
        rw [List.map_singleton, Value.equalLists, Bool.and_eq_true] at equal
        rw [rest, Value.eq_of_readLiteral_quote absent equal.1] at noQuote
        simp at noQuote

theorem isPiece_characters {value : Value} (plain : value.IsPlain) :
    IsPiece ',' value.characters :=
  (Value.shown_characters plain).isPiece

theorem pieces_separated_cons {value : Value} (plain : value.IsPlain) (text : List Char) :
    pieces ',' (value.characters ++ ',' :: ' ' :: text) = value.characters :: pieces ',' text := by
  have piece := isPiece_characters plain
  rw [pieces_append (by decide) piece.ends, pieces_of_isPiece piece, pieces_space_cons (by decide)]
  rfl

private theorem not_equalLists_of_cut {arguments : List Value}
    (plain : ∀ argument ∈ arguments, argument.IsPlain) {front back : List Char}
    (split : Value.separated (arguments.map Value.characters) = front ++ ')' :: back) :
    ¬ Value.equalLists ((pieces ',' front).map readLiteral) arguments := by
  induction arguments generalizing front with
  | nil => exact absurd split (by simp [Value.separated])
  | cons first rest induction =>
      rw [List.forall_mem_cons] at plain
      cases rest with
      | nil => exact not_equalLists_of_cut_within plain.1 split []
      | cons second rest =>
          have parts : Value.separated ((first :: second :: rest).map Value.characters) =
              first.characters ++
                ',' :: ' ' :: Value.separated ((second :: rest).map Value.characters) := rfl
          rw [parts] at split
          rcases List.append_eq_append_iff.mp split with
            ⟨more, whole, behind⟩ | ⟨more, whole, behind⟩
          · -- The cut is behind the first argument, and behind the comma and the space as well.
            rcases more with _ | ⟨comma, _ | ⟨space, more⟩⟩
            · cases behind
            · cases behind
            · injection behind with comma_eq behind
              injection behind with space_eq behind
              rw [whole, ← comma_eq, ← space_eq, pieces_separated_cons plain.1]
              intro equal
              rw [List.map_cons, Value.equalLists, Bool.and_eq_true] at equal
              exact induction plain.2 behind equal.2
          · cases more with
            | nil => cases behind
            | cons parenthesis more =>
                rw [← (List.cons.inj behind).1] at whole
                exact not_equalLists_of_cut_within plain.1 whole _

private theorem not_equalLists_of_more {arguments : List Value}
    (plain : ∀ argument ∈ arguments, argument.IsPlain) (more : List Char) :
    ¬ Value.equalLists
        ((pieces ',' (Value.separated (arguments.map Value.characters) ++ ')' :: more)).map
          readLiteral) arguments := by
  induction arguments with
  | nil =>
      have unbroken : Unbroken ',' .outside [')'] := ⟨by decide, True.intro⟩
      rcases pieces_append_of_unbroken (by decide) (List.cons_ne_nil ')' []) (by decide) unbroken
        more with ⟨_, _, others, _, found, _⟩
      intro equal
      rw [List.singleton_append] at found
      change Value.equalLists ((pieces ',' (')' :: more)).map readLiteral) [] at equal
      rw [found] at equal
      cases equal
  | cons first rest induction =>
      rw [List.forall_mem_cons] at plain
      have piece := isPiece_characters plain.1
      cases rest with
      | nil =>
          have some : first.characters ++ [')'] ≠ [] := by simp
          have trimmed : Trimmed (first.characters ++ [')']) :=
            trimmed_concat rfl piece.trimmed.first
          have unbroken : Unbroken ',' .outside (first.characters ++ [')']) := by
            rw [unbroken_append, piece.ends]
            exact ⟨piece.unbroken, by decide, True.intro⟩
          rcases pieces_append_of_unbroken (by decide) some trimmed unbroken more with
            ⟨taken, _, others, _, found, _⟩
          rcases trim_append some trimmed taken with ⟨kept, _, trimEqual, _, _⟩
          rw [trimEqual, List.append_assoc, List.append_assoc] at found
          intro equal
          change Value.equalLists
            ((pieces ',' (first.characters ++ ([')'] ++ more))).map readLiteral) [first] at equal
          rw [found, List.map_cons, Value.equalLists, Bool.and_eq_true] at equal
          exact Value.not_equal_of_more plain.1 kept equal.1
      | cons second rest =>
          have parts : Value.separated ((first :: second :: rest).map Value.characters) ++
              ')' :: more = first.characters ++
                ',' :: ' ' :: (Value.separated ((second :: rest).map Value.characters) ++
                  ')' :: more) := by
            simp [Value.separated]
          rw [parts, pieces_separated_cons plain.1]
          intro equal
          rw [List.map_cons, Value.equalLists, Bool.and_eq_true] at equal
          exact induction plain.2 equal.2

end Path

/-! ## Steps that were cut at a wrong point -/

namespace PathStep

def behindMethod (arguments : List Value) : List Char :=
  Value.separated (arguments.map Value.characters) ++ [')']

theorem characters_call (method : String) (arguments : List Value) :
    (PathStep.call method arguments).characters =
      (method.toList ++ ['(']) ++ behindMethod arguments := by
  simp [characters, behindMethod]

theorem trimmed_opening {method : List Char} (trimmed : Trimmed method) :
    Trimmed (method ++ ['(']) :=
  trimmed_concat rfl trimmed.first

private theorem unbroken_opening {method : List Char} (unbroken : Unbroken '.' .outside method) :
    Unbroken '.' .outside (method ++ ['(']) := by
  rw [unbroken_append]
  exact ⟨unbroken, by simp, True.intro⟩

theorem exists_of_same_call {method : String} {arguments : List Value} {rest : List Char}
    (trimmed : Trimmed method.toList) (absent : '(' ∉ method.toList)
    (same : (Path.readStep (trim ((method.toList ++ ['(']) ++ rest))).same
      (.call method arguments)) :
    ∃ inside back, rest = inside ++ ')' :: back ∧
      (∀ character ∈ back, isBlank character) ∧
      Value.equalLists ((Path.pieces ',' inside).map Path.readLiteral) arguments := by
  rcases trim_append (by simp) (trimmed_opening trimmed) rest with
    ⟨kept, back, trimEqual, split, blank⟩
  rw [trimEqual] at same
  rcases Path.readStep_cases ((method.toList ++ ['(']) ++ kept) with
    read | ⟨found, inside, whole, foundAbsent, read⟩
  · rw [read] at same
    cases same
  · rw [read, PathStep.same, Bool.and_eq_true] at same
    have cuts := congrArg (Path.cutAt '(') whole
    rw [List.append_assoc, List.singleton_append, Path.cutAt_append absent,
      Path.cutAt_append foundAbsent] at cuts
    injection cuts with cuts
    injection cuts with _ keptEqual
    exact ⟨inside, back, by rw [split, keptEqual, List.append_assoc]; rfl, blank, same.2⟩

theorem IsRead.trimmed_characters {step : PathStep} (read : step.IsRead) :
    step.characters ≠ [] ∧ Trimmed step.characters := by
  cases read with
  | member some trimmed => exact ⟨some, trimmed⟩
  | @call method arguments trimmed =>
      rw [characters_call, behindMethod, ← List.append_assoc]
      refine ⟨by simp, trimmed_concat rfl ?_⟩
      rw [List.head?_append_of_ne_nil _ (by simp)]
      exact (trimmed_opening trimmed).first

/-- A step that is written in full and then cut within is read as another. -/
theorem unbroken_of_same {step : PathStep} (read : step.IsRead)
    (plain : ∀ argument ∈ step.arguments, argument.IsPlain) {behind : List Char}
    {others : List PathStep}
    (same : Path.sameSteps ((Path.pieces '.' (step.characters ++ behind)).map Path.readStep)
      (step :: others)) : Unbroken '.' .outside step.characters := by
  cases read with
  | member _ _ unbroken => exact unbroken
  | @call method arguments trimmed absent unbroken _ =>
      rcases unbroken_or_cut '.' .outside (PathStep.call method arguments).characters with
        whole | ⟨first, rest, cut, firstUnbroken, ends⟩
      · exact whole
      · exfalso
        rw [cut, List.append_assoc, List.cons_append, Path.pieces_append (by decide) ends] at same
        rw [characters_call] at cut
        rcases beyond_of_unbroken (unbroken_opening unbroken) ends cut with
          ⟨inside, rfl, split⟩
        have shown : trim ((method.toList ++ ['(']) ++ inside) ≠ [] := by
          rcases trim_append (by simp) (trimmed_opening trimmed) inside with
            ⟨kept, _, equal, _, _⟩
          rw [equal]
          simp
        rw [Path.pieces_of_shown firstUnbroken shown, List.singleton_append, List.map_cons,
          Path.sameSteps, Bool.and_eq_true] at same
        rcases exists_of_same_call trimmed absent same.1 with ⟨found, back, rfl, _, equal⟩
        -- The last parenthesis of the call is behind the point, so the arguments that were read
        -- again end before another one, which stands within a written argument.
        rcases List.eq_nil_or_concat' rest with rfl | ⟨most, last, rfl⟩
        · have ends := (List.append_inj' split rfl).2
          exact absurd ends (by decide)
        · have parts : Value.separated (arguments.map Value.characters) ++ [')'] =
              (found ++ ')' :: (back ++ '.' :: most)) ++ [last] := by
            simpa [behindMethod] using split
          exact Path.not_equalLists_of_cut plain (List.append_inj' parts rfl).1 equal

theorem ends_of_same {step : PathStep} (read : step.IsRead) (endsOutside : step.EndsOutside)
    (plain : ∀ argument ∈ step.arguments, argument.IsPlain) {behind : List Char}
    {others : List PathStep} (unbroken : Unbroken '.' .outside step.characters)
    (same : Path.sameSteps ((Path.pieces '.' (step.characters ++ '.' :: behind)).map Path.readStep)
      (step :: others)) : Nesting.outside.after step.characters = .outside := by
  cases read with
  | member => exact endsOutside
  | @call method arguments trimmed absent _ _ =>
      by_contra open_
      rcases (IsRead.call trimmed absent ‹_› ‹_›).trimmed_characters with ⟨some, whole⟩
      rcases Path.pieces_append_of_unbroken (by decide) some whole unbroken ('.' :: behind) with
        ⟨taken, left, more, split, found, cut⟩
      rw [found, List.map_cons, Path.sameSteps, Bool.and_eq_true] at same
      have goesOn : ∃ next, taken = '.' :: next := by
        cases taken with
        | nil =>
            rcases cut with rfl | ends
            · cases split
            · rw [List.append_nil] at ends
              exact absurd ends open_
        | cons first next =>
            rw [← (List.cons.inj split).1]
            exact ⟨next, rfl⟩
      rcases goesOn with ⟨next, rfl⟩
      rw [characters_call, List.append_assoc] at same
      rcases exists_of_same_call trimmed absent same.1 with ⟨inside, back, parts, blank, equal⟩
      have noPoint : '.' ∉ back := by
        intro member
        exact absurd (blank '.' member) (by decide)
      rw [behindMethod, List.append_assoc, List.singleton_append] at parts
      rcases List.append_eq_append_iff.mp parts with
        ⟨kept, insideEqual, behindEqual⟩ | ⟨kept, _, behindEqual⟩
      · cases kept with
        | nil =>
            rw [← (List.cons.inj behindEqual).2] at noPoint
            exact noPoint List.mem_cons_self
        | cons parenthesis kept =>
            rw [← (List.cons.inj behindEqual).1] at insideEqual
            rw [insideEqual] at equal
            exact Path.not_equalLists_of_more plain kept equal
      · cases kept with
        | nil =>
            rw [(List.cons.inj behindEqual).2] at noPoint
            exact noPoint List.mem_cons_self
        | cons parenthesis kept =>
            rw [(List.cons.inj behindEqual).2] at noPoint
            simp at noPoint

end PathStep

/-! ## Paths that survive -/

namespace PathStep

theorem IsRead.readStep_characters {step : PathStep} (read : step.IsRead)
    (plain : ∀ argument ∈ step.arguments, argument.IsPlain) :
    Path.readStep step.characters = step := by
  cases read with
  | member _ _ _ back => exact back
  | @call method arguments trimmed absent =>
      have back : (Path.pieces ',' (Value.separated (arguments.map Value.characters))).map
          Path.readLiteral = arguments := Path.readArguments_separated plain
      rw [characters, Path.readStep, Path.beforeLast_append, Option.bind_some,
        Path.cutAt_append absent]
      dsimp only
      rw [trimmed.trim_eq, String.ofList_toList, back]

theorem IsRead.scan_call {method : String} {arguments : List Value}
    (read : (PathStep.call method arguments).IsRead)
    (plain : ∀ argument ∈ arguments, argument.IsPlain)
    (closed : (PathStep.call method arguments).IsClosed) :
    Unbroken '.' .outside (PathStep.call method arguments).characters ∧
      Nesting.outside.after (PathStep.call method arguments).characters = .outside := by
  cases read with
  | call _ _ unbroken =>
      have contained : Contained (Value.separated (arguments.map Value.characters)) := by
        apply Value.contained_separated
        intro part member
        exact (Value.shown_of_mem_map plain part member).contained
      rcases contained.parenthesized (by decide : '.' ≠ '(') with ⟨inside, ends⟩
      have outside : Nesting.outside.after method.toList = .outside := closed
      rw [characters_call, behindMethod, List.append_assoc, List.singleton_append,
        unbroken_append, Nesting.after_append, outside]
      exact ⟨⟨unbroken, inside⟩, ends⟩

private theorem IsRead.unbroken_characters {step : PathStep} (read : step.IsRead)
    (plain : ∀ argument ∈ step.arguments, argument.IsPlain) (closed : step.IsClosed) :
    Unbroken '.' .outside step.characters := by
  cases step with
  | member =>
      cases read with
      | member _ _ unbroken => exact unbroken
  | call => exact (read.scan_call plain closed).1

private theorem IsRead.ends_characters {step : PathStep} (read : step.IsRead)
    (endsOutside : step.EndsOutside) (plain : ∀ argument ∈ step.arguments, argument.IsPlain)
    (closed : step.IsClosed) : Nesting.outside.after step.characters = .outside := by
  cases step with
  | member => exact endsOutside
  | call => exact (read.scan_call plain closed).2

end PathStep

namespace Path

/-- The written form of the steps falls apart into the written steps. -/
def FallsApart (steps : List PathStep) : Prop :=
  pieces '.' (charactersOfSteps steps) = steps.map PathStep.characters

theorem fallsApart_single {step : PathStep} (read : step.IsRead)
    (unbroken : Unbroken '.' .outside step.characters) : FallsApart [step] := by
  have trimmed := read.trimmed_characters.2.trim_eq
  have shown : trim step.characters ≠ [] := by
    rw [trimmed]
    exact read.trimmed_characters.1
  rw [FallsApart, charactersOfSteps, pieces_of_shown unbroken shown, trimmed]
  rfl

theorem pieces_cons {step : PathStep} (read : step.IsRead)
    (unbroken : Unbroken '.' .outside step.characters)
    (ends : Nesting.outside.after step.characters = .outside) (rest : List Char) :
    pieces '.' (step.characters ++ '.' :: rest) = step.characters :: pieces '.' rest := by
  have single := fallsApart_single read unbroken
  rw [FallsApart, charactersOfSteps] at single
  rw [pieces_append (by decide) ends, single]
  rfl

private theorem fallsApart_of_same {steps : List PathStep} (areRead : PathStep.AreRead steps)
    (plain : ∀ step ∈ steps, ∀ argument ∈ step.arguments, argument.IsPlain)
    (same : sameSteps ((pieces '.' (charactersOfSteps steps)).map readStep) steps) :
    FallsApart steps := by
  induction areRead with
  | nil => rfl
  | @cons step steps read endsOutside _ induction =>
      rw [List.forall_mem_cons] at plain
      cases steps with
      | nil =>
          rw [charactersOfSteps, ← List.append_nil step.characters] at same
          exact fallsApart_single read (PathStep.unbroken_of_same read plain.1 same)
      | cons next rest =>
          rw [charactersOfSteps] at same
          have unbroken := PathStep.unbroken_of_same read plain.1 same
          have ends := PathStep.ends_of_same read (endsOutside (List.cons_ne_nil _ _)) plain.1
            unbroken same
          rw [pieces_cons read unbroken ends, List.map_cons, sameSteps, Bool.and_eq_true] at same
          rw [FallsApart, charactersOfSteps, pieces_cons read unbroken ends,
            induction plain.2 same.2]
          rfl

private theorem fallsApart_of_closed {steps : List PathStep} (areRead : PathStep.AreRead steps)
    (plain : ∀ step ∈ steps, ∀ argument ∈ step.arguments, argument.IsPlain)
    (closed : ∀ step ∈ steps, step.IsClosed) : FallsApart steps := by
  induction areRead with
  | nil => rfl
  | @cons step steps read endsOutside _ induction =>
      rw [List.forall_mem_cons] at plain closed
      have unbroken := read.unbroken_characters plain.1 closed.1
      cases steps with
      | nil => exact fallsApart_single read unbroken
      | cons next rest =>
          have ends :=
            read.ends_characters (endsOutside (List.cons_ne_nil _ _)) plain.1 closed.1
          rw [FallsApart, charactersOfSteps, pieces_cons read unbroken ends,
            induction plain.2 closed.2]
          rfl

private theorem parse_of_fallsApart {steps : List PathStep} (areRead : PathStep.AreRead steps)
    (plain : ∀ step ∈ steps, ∀ argument ∈ step.arguments, argument.IsPlain)
    (apart : FallsApart steps) : (pieces '.' (charactersOfSteps steps)).map readStep = steps := by
  have back : ∀ step ∈ steps, (readStep ∘ PathStep.characters) step = id step := by
    intro step member
    exact (areRead.isRead member).readStep_characters (plain step member)
  rw [apart, List.map_map, List.map_congr_left back, List.map_id]

/-- Everything in the path is written as it is, and the written form falls apart into the written
steps. -/
structure IsFaithful (path : Path) : Prop where
  plain : ∀ step ∈ path.steps, ∀ argument ∈ step.arguments, argument.IsPlain
  apart : FallsApart path.steps

private theorem eq_of_steps_eq {left right : Path} (equal : left.steps = right.steps) :
    left = right := by
  cases left
  cases right
  exact congrArg Path.mk equal

private theorem equalLists_self {values : List Value}
    (floatFree : ∀ value ∈ values, value.isFloatFree) : Value.equalLists values values := by
  induction values with
  | nil => rfl
  | cons value values induction =>
      rw [List.forall_mem_cons] at floatFree
      rw [Value.equalLists, (Value.equal_iff_eq floatFree.1 floatFree.1).mpr rfl, Bool.true_and]
      exact induction floatFree.2

private theorem sameSteps_self {steps : List PathStep}
    (floatFree : ∀ step ∈ steps, ∀ argument ∈ step.arguments, argument.isFloatFree) :
    sameSteps steps steps := by
  induction steps with
  | nil => rfl
  | cons step steps induction =>
      rw [List.forall_mem_cons] at floatFree
      have first : step.same step := by
        cases step with
        | member name => exact beq_self_eq_true name
        | call method arguments =>
            rw [PathStep.same, beq_self_eq_true, Bool.true_and]
            exact equalLists_self floatFree.1
      rw [sameSteps, first, Bool.true_and]
      exact induction floatFree.2

/-- A path that was read survives being written and read again exactly if it is faithful. If no
method opens a quote, that depends on the strings alone, and so every path without calls
survives. -/
theorem survives_iff_isFaithful (text : String)
    (floatFree : ∀ step ∈ (parse text).steps, ∀ argument ∈ step.arguments,
      argument.isFloatFree) :
    ((parse (parse text).text).same (parse text) ↔ (parse text).IsFaithful) ∧
    ((parse text).IsFaithful → parse (parse text).text = parse text) ∧
    ((∀ step ∈ (parse text).steps, step.IsClosed) →
      ((parse text).IsFaithful ↔
        ∀ step ∈ (parse text).steps, ∀ argument ∈ step.arguments, argument.IsPlain)) ∧
    ((∀ step ∈ (parse text).steps, ∃ name, step = .member name) → (parse text).IsFaithful) := by
  have areRead : PathStep.AreRead (parse text).steps := PathStep.areRead_parse text.toList
  have reread : (parse (parse text).text).steps =
      (pieces '.' (charactersOfSteps (parse text).steps)).map readStep := by
    rw [parse, Path.text, String.toList_ofList]
  have back (faithful : (parse text).IsFaithful) : parse (parse text).text = parse text := by
    have steps := parse_of_fallsApart areRead faithful.plain faithful.apart
    exact eq_of_steps_eq (reread.trans steps)
  refine ⟨⟨?_, ?_⟩, back, ?_, ?_⟩
  · intro same
    rw [Path.same, reread] at same
    have unmarked := marked_eq_zero_of_same same
    have plain : ∀ step ∈ (parse text).steps, ∀ argument ∈ step.arguments, argument.IsPlain := by
      intro step member argument listed
      exact Value.isPlain_of_marked ((areRead.isRead member).isScalar listed)
        (floatFree step member argument listed) (unmarked step member argument listed)
    exact ⟨plain, fallsApart_of_same areRead plain same⟩
  · intro faithful
    rw [back faithful]
    exact sameSteps_self floatFree
  · intro closed
    exact ⟨IsFaithful.plain, fun plain => ⟨plain, fallsApart_of_closed areRead plain closed⟩⟩
  · intro members
    have plain : ∀ step ∈ (parse text).steps, ∀ argument ∈ step.arguments, argument.IsPlain := by
      intro step member argument listed
      rcases members step member with ⟨name, rfl⟩
      cases listed
    have closed : ∀ step ∈ (parse text).steps, step.IsClosed := by
      intro step member
      rcases members step member with ⟨name, rfl⟩
      exact True.intro
    exact ⟨plain, fallsApart_of_closed areRead plain closed⟩

def crowded : Path :=
  ⟨[.member "a)", .call "tag" [.string "x.y", .int 12, .none], .member "\"open"]⟩

theorem crowded_survives :
    parse " a) . tag( 'x.y' , 12,none ) .\"open" = crowded ∧
    (∀ step ∈ crowded.steps, ∀ argument ∈ step.arguments, argument.isFloatFree) ∧
    (∀ step ∈ crowded.steps, step.IsClosed) ∧
    crowded.text = "a).tag(\"x.y\", 12, none).\"open" ∧ parse crowded.text = crowded := by
  have read : parse " a) . tag( 'x.y' , 12,none ) .\"open" = crowded := rfl
  have floatFree : ∀ step ∈ crowded.steps, ∀ argument ∈ step.arguments,
      argument.isFloatFree := by decide
  have closed : ∀ step ∈ crowded.steps, step.IsClosed := by decide
  have plain : ∀ step ∈ crowded.steps, ∀ argument ∈ step.arguments, argument.IsPlain := by
    decide +kernel
  have laws := survives_iff_isFaithful " a) . tag( 'x.y' , 12,none ) .\"open"
  rw [read] at laws
  rcases laws floatFree with ⟨_, back, byStrings, _⟩
  exact ⟨read, floatFree, closed, rfl, back ((byStrings closed).mpr plain)⟩

/-- A string with a double quote comes back with a backslash. -/
theorem quote_in_string_lost :
    parse "tag('a\"b')" = ⟨[.call "tag" [.string "a\"b"]]⟩ ∧
    parse (parse "tag('a\"b')").text = ⟨[.call "tag" [.string "a\\\"b"]]⟩ ∧
    (parse (parse "tag('a\"b')").text).same (parse "tag('a\"b')") = false := by
  have read : parse "tag('a\"b')" = ⟨[.call "tag" [.string "a\"b"]]⟩ := rfl
  have written : (⟨[.call "tag" [.string "a\"b"]]⟩ : Path).text = "tag(\"a\\\"b\")" := rfl
  have reread : parse "tag(\"a\\\"b\")" = ⟨[.call "tag" [.string "a\\\"b"]]⟩ := rfl
  rw [read, written, reread]
  exact ⟨rfl, rfl, by decide⟩

end Path

end Criteria

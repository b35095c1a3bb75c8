import Criteria.Path.Reading
import Criteria.Path.Text
import Criteria.Proofs.Numerals
import Criteria.Proofs.Splitting

/-!
Written paths are read back.

The written form of a path uses points, commas, parentheses and quotes of its own, and names and
strings may not be taken for them. Names must do without these characters. A string may contain all
of them but the double quote, because the scan does not look for separators between quotes.
-/

namespace Criteria

open Text

/-! ## What can be written as it is -/

/-- A name that is not taken for anything else in a written path. -/
structure PathStep.IsName (name : String) : Prop where
  ne_nil : name.toList ≠ []
  trimmed : Trimmed name.toList
  free : ∀ character ∈ name.toList, character ∉ ['.', '(', ')', '"', '\'']

/-- A missing value, a boolean, an integer, or a string whose text is the string itself between
quotes. -/
def Value.IsPlain : Value → Prop
  | .none => True
  | .bool _ => True
  | .int _ => True
  | .string text => quoted text.toList = '"' :: (text.toList ++ ['"'])
  | _ => False

def PathStep.IsPlain : PathStep → Prop
  | .member name => IsName name
  | .call method arguments => IsName method ∧ ∀ argument ∈ arguments, argument.IsPlain

def Path.IsPlain (path : Path) : Prop :=
  ∀ step ∈ path.steps, step.IsPlain

instance (name : String) : Decidable (PathStep.IsName name) :=
  have := List.decidableBAll (· ∉ ['.', '(', ')', '"', '\'']) name.toList
  decidable_of_iff
    (name.toList ≠ [] ∧ Trimmed name.toList ∧
      ∀ character ∈ name.toList, character ∉ ['.', '(', ')', '"', '\''])
    ⟨fun parts => ⟨parts.1, parts.2.1, parts.2.2⟩,
      fun isName => ⟨isName.ne_nil, isName.trimmed, isName.free⟩⟩

instance : DecidablePred Value.IsPlain
  | .none => isTrue True.intro
  | .bool _ => isTrue True.intro
  | .int _ => isTrue True.intro
  | .string text => inferInstanceAs (Decidable (quoted text.toList = _))
  | .float _ => isFalse id
  | .date _ => isFalse id
  | .datetime _ => isFalse id
  | .list _ => isFalse id
  | .record _ => isFalse id

instance : DecidablePred PathStep.IsPlain
  | .member name => inferInstanceAs (Decidable (PathStep.IsName name))
  | .call method arguments =>
      inferInstanceAs
        (Decidable (PathStep.IsName method ∧ ∀ argument ∈ arguments, argument.IsPlain))

instance : DecidablePred Path.IsPlain := fun path =>
  inferInstanceAs (Decidable (∀ step ∈ path.steps, step.IsPlain))

namespace Text

theorem escape_ne_nil (character : Char) : escape character ≠ [] := by
  unfold escape codePoint
  repeat' split
  all_goals simp

private theorem length_le_escapeAll (text : List Char) : text.length ≤ (escapeAll text).length := by
  induction text with
  | nil => exact Nat.le_refl 0
  | cons character rest induction =>
      have some := List.length_pos_iff.mpr (escape_ne_nil character)
      rw [escapeAll_cons, List.length_append, List.length_cons]
      omega

private theorem escapeAll_eq_self_iff {text : List Char} :
    escapeAll text = text ↔ ∀ character ∈ text, escape character = [character] := by
  induction text with
  | nil => simp [escapeAll]
  | cons character rest induction =>
      rw [escapeAll_cons, List.forall_mem_cons, ← induction]
      constructor
      · intro same
        have total := congrArg List.length same
        have some := List.length_pos_iff.mpr (escape_ne_nil character)
        have least := length_le_escapeAll rest
        rw [List.length_append, List.length_cons] at total
        have one : (escape character).length = [character].length := by
          rw [List.length_singleton]
          omega
        exact List.append_inj same one
      · intro same
        rw [same.1, same.2]
        rfl

end Text

namespace Value

theorem isPlain_string_iff {text : String} :
    (Value.string text).IsPlain ↔
      ∀ character ∈ text.toList, escape character = [character] := by
  rw [← escapeAll_eq_self_iff, IsPlain, quoted, List.cons_inj_right, List.append_left_inj]

theorem not_mem_of_isPlain {text : String} (plain : (Value.string text).IsPlain) :
    '"' ∉ text.toList := by
  intro member
  have marked := isPlain_string_iff.mp plain '"' member
  revert marked
  decide

end Value

/-! ## Pieces -/

namespace Text

/-- A part of a written path that is found again between separators. -/
structure IsPiece (separator : Char) (text : List Char) : Prop where
  ne_nil : text ≠ []
  trimmed : Trimmed text
  unbroken : Unbroken separator .outside text
  ends : Nesting.outside.after text = .outside

end Text

namespace Path

variable {separator : Char} {text : List Char}

theorem pieces_of_isPiece (piece : IsPiece separator text) : pieces separator text = [text] := by
  have some : (!text.isEmpty) = true := by simp [piece.ne_nil]
  rw [pieces, splitOutside, splitWithin_of_unbroken piece.unbroken, List.map_singleton,
    piece.trimmed.trim_eq]
  exact List.filter_cons_of_pos some

theorem pieces_append (unmarked : isMark separator = false)
    (ends : Nesting.outside.after text = .outside) (rest : List Char) :
    pieces separator (text ++ separator :: rest) =
      pieces separator text ++ pieces separator rest := by
  rw [pieces, splitOutside, splitWithin_append unmarked ends, List.map_append, List.filter_append]
  rfl

theorem pieces_space_cons (other : ' ' ≠ separator) (text : List Char) :
    pieces separator (' ' :: text) = pieces separator text := by
  have still : Nesting.outside.advance ' ' = .outside := by decide
  have split : splitWithin separator .outside (' ' :: text) =
      consPart ' ' (splitWithin separator .outside text) := by
    rw [splitWithin, if_neg fun cut => other cut.1, still]
  rw [pieces, pieces, splitOutside, splitOutside, split]
  cases parts : splitWithin separator .outside text with
  | nil => exact absurd parts (splitWithin_ne_nil separator .outside text)
  | cons part more =>
      have trimmed : trim (' ' :: part) = trim part := trim_cons_of_blank (by decide) part
      rw [consPart, List.map_cons, List.map_cons, trimmed]

private theorem pieces_separated {parts : List (List Char)}
    (found : ∀ part ∈ parts, IsPiece ',' part) : pieces ',' (Value.separated parts) = parts := by
  induction parts using Value.separated.induct with
  | case1 => rfl
  | case2 last => exact pieces_of_isPiece (found last List.mem_cons_self)
  | case3 first second rest induction =>
      rw [List.forall_mem_cons] at found
      rw [Value.separated, pieces_append (by decide) found.1.ends, pieces_of_isPiece found.1,
        pieces_space_cons (by decide), induction found.2]
      rfl

private theorem pieces_charactersOfSteps {steps : List PathStep}
    (found : ∀ step ∈ steps, IsPiece '.' step.characters) :
    pieces '.' (charactersOfSteps steps) = steps.map PathStep.characters := by
  induction steps using charactersOfSteps.induct with
  | case1 => rfl
  | case2 last => exact pieces_of_isPiece (found last List.mem_cons_self)
  | case3 first second rest induction =>
      rw [List.forall_mem_cons] at found
      rw [charactersOfSteps, pieces_append (by decide) found.1.ends, pieces_of_isPiece found.1,
        induction found.2]
      rfl

/-! ## Cutting at one character -/

theorem beforeLast_append (mark : Char) (text : List Char) :
    beforeLast mark (text ++ [mark]) = some text := by
  simp [beforeLast]

private theorem beforeLast_of_not_mem {mark : Char} (absent : mark ∉ text) :
    beforeLast mark text = none := by
  unfold beforeLast
  split
  case h_1 last before reversed =>
      rw [if_neg]
      intro equal
      apply absent
      rw [← List.mem_reverse, reversed, equal]
      exact List.mem_cons_self
  case h_2 => rfl

theorem cutAt_append {mark : Char} (absent : mark ∉ text) (rest : List Char) :
    cutAt mark (text ++ mark :: rest) = some (text, rest) := by
  have before : ∀ character ∈ text, decide (character ≠ mark) = true := by
    intro character member
    apply decide_eq_true
    intro equal
    exact absent (equal ▸ member)
  rw [cutAt, List.dropWhile_append_of_pos before, List.takeWhile_append_of_pos before]
  simp

private theorem between_quoted (quote : Char) (text : List Char) :
    between quote (quote :: (text ++ [quote])) = some text := by
  rw [between, if_pos rfl, beforeLast_append]

private theorem between_of_not_mem {quote : Char} (absent : quote ∉ text) :
    between quote text = none := by
  cases text with
  | nil => rfl
  | cons first rest =>
      rw [List.mem_cons, not_or] at absent
      rw [between, if_neg fun equal => absent.1 equal.symm]

end Path

/-! ## Arguments -/

namespace Value

inductive Shown : List Char → Prop where
  | word {text : List Char} (some : text ≠ [])
      (signs : ∀ character ∈ text, isBlank character = false ∧ isMark character = false ∧
        character ≠ ',') : Shown text
  | quoted {text : List Char} (absent : '"' ∉ text) : Shown ('"' :: (text ++ ['"']))

private theorem signs_of_isDigit {character : Char} (digit : character.isDigit) :
    isBlank character = false ∧ isMark character = false ∧ character ≠ ',' := by
  have bounds : 48 ≤ character.toNat ∧ character.toNat ≤ 57 := by
    rw [Char.isDigit, Bool.and_eq_true, decide_eq_true_eq, decide_eq_true_eq] at digit
    exact digit
  have other (mark : Char) (below : mark.toNat < 48) : character ≠ mark := by
    intro equal
    rw [equal] at bounds
    omega
  refine ⟨?_, ?_, other ',' (by decide)⟩
  · simp [isBlank]
    omega
  · simp [isMark, other]

theorem signs_characters {value : Value} (plain : value.IsPlain)
    (noString : ∀ text, value ≠ .string text) :
    value.characters ≠ [] ∧ ∀ character ∈ value.characters,
      isBlank character = false ∧ isMark character = false ∧ character ≠ ',' := by
  cases value with
  | none => exact ⟨by decide, by simp [characters, isBlank, isMark]⟩
  | bool value =>
      cases value <;> exact ⟨by decide, by simp [characters, isBlank, isMark]⟩
  | int value =>
      refine ⟨Number.integer_ne_nil _, ?_⟩
      intro character member
      rcases Number.mem_integer member with rfl | digit
      · decide
      · exact signs_of_isDigit digit
  | string text => exact absurd rfl (noString text)
  | _ => cases plain

theorem shown_characters {value : Value} (plain : value.IsPlain) : Shown value.characters := by
  cases value with
  | string text =>
      have same : (Value.string text).characters = '"' :: (text.toList ++ ['"']) := plain
      rw [same]
      exact .quoted (not_mem_of_isPlain plain)
  | _ =>
      rcases signs_characters plain nofun with ⟨some, signs⟩
      exact .word some signs

theorem shown_of_mem_map {arguments : List Value}
    (plain : ∀ argument ∈ arguments, argument.IsPlain) :
    ∀ part ∈ arguments.map characters, Shown part := by
  intro part member
  rcases List.mem_map.mp member with ⟨argument, listed, rfl⟩
  exact shown_characters (plain argument listed)

theorem Shown.contained {text : List Char} (shown : Shown text) : Contained text := by
  cases shown with
  | word _ signs => exact contained_of_no_marks fun character member => (signs character member).2.1
  | quoted absent => exact contained_quoted absent

theorem Shown.isPiece {text : List Char} (shown : Shown text) : IsPiece ',' text := by
  have ends := shown.contained.back 0
  cases shown with
  | word some signs =>
      refine ⟨some, ⟨?_, ?_⟩, ?_, ends⟩
      · intro character first
        exact (signs character (List.mem_of_mem_head? first)).1
      · intro character last
        exact (signs character (List.mem_of_mem_getLast? last)).1
      · exact unbroken_of_not_mem fun member => (signs ',' member).2.2 rfl
  | quoted absent =>
      refine ⟨List.cons_ne_nil _ _, ⟨?_, ?_⟩, ?_, ends⟩
      · intro character first
        cases first
        decide
      · intro character last
        rw [← List.cons_append, List.getLast?_concat] at last
        cases last
        decide
      · exact unbroken_quoted absent (by decide)

theorem contained_separated {parts : List (List Char)}
    (contained : ∀ part ∈ parts, Contained part) : Contained (separated parts) := by
  induction parts using separated.induct with
  | case1 => exact contained_of_no_marks nofun
  | case2 last => exact contained last List.mem_cons_self
  | case3 first second rest induction =>
      rw [List.forall_mem_cons] at contained
      have between : Contained [',', ' '] := contained_of_no_marks (by simp [isMark])
      exact contained.1.append (between.append (induction contained.2))

end Value

namespace Path

private theorem readLiteral_integer (value : Int64) :
    readLiteral (Number.integer value.toInt) = .int value := by
  have absent (mark : Char) (notMinus : mark ≠ '-') (notDigit : mark.isDigit = false) :
      mark ∉ Number.integer value.toInt := by
    intro member
    rcases Number.mem_integer member with minus | digit
    · exact notMinus minus
    · rw [notDigit] at digit
      cases digit
  have noWord (word : String) (initial : Char) (member : initial ∈ word.toList)
      (notMinus : initial ≠ '-') (notDigit : initial.isDigit = false) :
      String.ofList (Number.integer value.toInt) ≠ word := by
    intro equal
    rw [← equal, String.toList_ofList] at member
    exact absent initial notMinus notDigit member
  rw [readLiteral, between_of_not_mem (absent '"' (by decide) (by decide)),
    between_of_not_mem (absent '\'' (by decide) (by decide))]
  simp only [readWord, noWord "true" 't' (by decide) (by decide) (by decide),
    noWord "false" 'f' (by decide) (by decide) (by decide),
    noWord "none" 'n' (by decide) (by decide) (by decide), if_false, Number.readInt64_integer]

private theorem readLiteral_characters {value : Value} (plain : value.IsPlain) :
    readLiteral value.characters = value := by
  cases value with
  | none => rfl
  | bool value => cases value <;> rfl
  | int value => exact readLiteral_integer value
  | string text =>
      have same : (Value.string text).characters = '"' :: (text.toList ++ ['"']) := plain
      rw [same, readLiteral, between_quoted]
      exact congrArg Value.string String.ofList_toList
  | _ => cases plain

theorem readArguments_separated {arguments : List Value}
    (plain : ∀ argument ∈ arguments, argument.IsPlain) :
    (pieces ',' (Value.separated (arguments.map Value.characters))).map readLiteral =
      arguments := by
  have found : ∀ part ∈ arguments.map Value.characters, IsPiece ',' part :=
    fun part member => (Value.shown_of_mem_map plain part member).isPiece
  have back : ∀ argument ∈ arguments, (readLiteral ∘ Value.characters) argument = id argument :=
    fun argument member => readLiteral_characters (plain argument member)
  rw [pieces_separated found, List.map_map, List.map_congr_left back, List.map_id]

end Path

/-! ## Steps and paths -/

namespace PathStep

theorem IsName.not_mem {name : String} (isName : IsName name) {mark : Char}
    (listed : mark ∈ ['.', '(', ')', '"', '\'']) : mark ∉ name.toList :=
  fun member => isName.free mark member listed

private theorem IsName.no_marks {name : String} (isName : IsName name) :
    ∀ character ∈ name.toList, isMark character = false := by
  intro character member
  have free := isName.free character member
  simp only [List.mem_cons, List.not_mem_nil, or_false, not_or] at free
  simp [isMark, free]

private theorem IsName.unbroken {name : String} (isName : IsName name) :
    Unbroken '.' .outside name.toList :=
  unbroken_of_not_mem (isName.not_mem (by decide))

private theorem IsName.ends {name : String} (isName : IsName name) :
    Nesting.outside.after name.toList = .outside :=
  Nesting.after_of_no_marks isName.no_marks rfl

private theorem isPiece_characters {step : PathStep} (plain : step.IsPlain) :
    IsPiece '.' step.characters := by
  cases step with
  | member name => exact ⟨plain.ne_nil, plain.trimmed, plain.unbroken, plain.ends⟩
  | call method arguments =>
      rcases plain with ⟨isName, plain⟩
      have contained : Contained (Value.separated (arguments.map Value.characters)) := by
        apply Value.contained_separated
        intro part member
        exact (Value.shown_of_mem_map plain part member).contained
      rcases contained.parenthesized (by decide : '.' ≠ '(') with ⟨unbroken, ends⟩
      have split : (PathStep.call method arguments).characters =
          method.toList ++
            '(' :: (Value.separated (arguments.map Value.characters) ++ [')']) := by
        rw [characters, List.append_assoc, List.cons_append]
      rw [split]
      refine ⟨?_, ⟨?_, ?_⟩, ?_, ?_⟩
      · exact List.append_ne_nil_of_left_ne_nil isName.ne_nil _
      · rw [List.head?_append, List.head?_eq_some_head isName.ne_nil, Option.some_or,
          ← List.head?_eq_some_head isName.ne_nil]
        exact isName.trimmed.first
      · intro character last
        rw [← List.cons_append, ← List.append_assoc, List.getLast?_concat] at last
        cases last
        decide
      · rw [unbroken_append, isName.ends]
        exact ⟨isName.unbroken, unbroken⟩
      · rw [Nesting.after_append, isName.ends, ends]

private theorem readStep_characters {step : PathStep} (plain : step.IsPlain) :
    Path.readStep step.characters = step := by
  cases step with
  | member name =>
      have isName : IsName name := plain
      rw [characters, Path.readStep, Path.beforeLast_of_not_mem (isName.not_mem (by decide))]
      exact congrArg PathStep.member String.ofList_toList
  | call method arguments =>
      rcases plain with ⟨isName, plain⟩
      rw [characters, Path.readStep, Path.beforeLast_append, Option.bind_some,
        Path.cutAt_append (isName.not_mem (by decide))]
      dsimp only
      rw [isName.trimmed.trim_eq, String.ofList_toList, Path.readArguments_separated plain]

end PathStep

namespace Path

/-- Reading a written path gives the path, with the same kinds and values of arguments, whatever
points, commas, parentheses, single quotes, blanks, words or digits its strings are made of. -/
theorem parse_text {path : Path} (plain : path.IsPlain) : parse path.text = path := by
  have found : ∀ step ∈ path.steps, IsPiece '.' step.characters :=
    fun step member => PathStep.isPiece_characters (plain step member)
  have back : ∀ step ∈ path.steps, (readStep ∘ PathStep.characters) step = id step :=
    fun step member => PathStep.readStep_characters (plain step member)
  rw [parse, text, String.toList_ofList, pieces_charactersOfSteps found, List.map_map,
    List.map_congr_left back, List.map_id]

def deceptive : Path :=
  ⟨[.member "a b", .call "tag" [.string "x.y, (z", .string " ') ", .string "true", .string "",
    .string "-7", .int (-7), .bool true, .none], .call "end" []]⟩

theorem parse_deceptive :
    deceptive.IsPlain ∧ parse deceptive.text = deceptive := by
  have plain : deceptive.IsPlain := by decide +kernel
  exact ⟨plain, parse_text plain⟩

end Path

end Criteria

import Criteria.Proofs.PathReading

/-!
How a text falls apart into pieces, and how a piece is taken for a word.

A text either meets no separator on the outside, or it starts with a part that meets none and ends
on the outside, where the separator cuts. So what holds of the pieces of every text is proved for a
text that is one part and for a part with a separator and a text behind it. Trimming a part takes
away nothing but white space, which neither opens nor closes anything.
-/

namespace Criteria

namespace Text

variable {separator : Char} {nesting : Nesting} {text : List Char}

/-! ## Cuts -/

theorem unbroken_or_cut (separator : Char) (nesting : Nesting) (text : List Char) :
    Unbroken separator nesting text ∨
      ∃ first rest, text = first ++ separator :: rest ∧ Unbroken separator nesting first ∧
        nesting.after first = .outside := by
  induction text generalizing nesting with
  | nil => exact .inl True.intro
  | cons character text induction =>
      by_cases cut : character = separator ∧ nesting = .outside
      · exact .inr ⟨[], text, by rw [cut.1, List.nil_append], True.intro, cut.2⟩
      · rcases induction (nesting.advance character) with
          unbroken | ⟨first, rest, rfl, unbroken, ends⟩
        · exact .inl ⟨cut, unbroken⟩
        · exact .inr ⟨character :: first, rest, rfl, ⟨cut, unbroken⟩, ends⟩

@[elab_as_elim]
theorem cut_induction {motive : List Char → Prop} (separator : Char)
    (whole : ∀ text, Unbroken separator .outside text → motive text)
    (cut : ∀ first rest, Unbroken separator .outside first →
      Nesting.outside.after first = .outside → motive rest →
      motive (first ++ separator :: rest)) (text : List Char) : motive text := by
  rcases unbroken_or_cut separator .outside text with
    unbroken | ⟨first, rest, split, unbroken, ends⟩
  · exact whole text unbroken
  · rw [split]
    exact cut first rest unbroken ends (cut_induction separator whole cut rest)
termination_by text.length
decreasing_by
  rw [split, List.length_append, List.length_cons]
  omega

/-- A part that is cut off cannot end within text that meets no separator. -/
theorem beyond_of_unbroken {front first behind rest : List Char}
    (unbroken : Unbroken separator .outside front)
    (ends : Nesting.outside.after first = .outside)
    (equal : front ++ behind = first ++ separator :: rest) :
    ∃ more, first = front ++ more ∧ behind = more ++ separator :: rest := by
  rcases List.append_eq_append_iff.mp equal with ⟨more, split, cut⟩ | ⟨others, split, cut⟩
  · exact ⟨more, split, cut⟩
  · cases others with
    | nil =>
        rw [List.append_nil] at split
        exact ⟨[], by rw [split, List.append_nil], cut.symm⟩
    | cons character others =>
        rw [(List.cons.inj cut).1.symm] at split
        rw [split, unbroken_append, ends] at unbroken
        exact absurd ⟨rfl, rfl⟩ unbroken.2.1

/-! ## White space around a part -/

theorem mem_of_mem_trim {character : Char} (member : character ∈ trim text) :
    character ∈ text := by
  rcases exists_around_trim text with ⟨front, back, split, _, _⟩
  rw [split]
  exact List.mem_append_left _ (List.mem_append_right _ member)

theorem trim_append {front : List Char} (some : front ≠ []) (trimmed : Trimmed front)
    (rest : List Char) :
    ∃ kept back, trim (front ++ rest) = front ++ kept ∧ rest = kept ++ back ∧
      ∀ character ∈ back, isBlank character := by
  rcases exists_around_trim (front ++ rest) with ⟨before, back, split, beforeBlank, backBlank⟩
  have nothingBefore : before = [] := by
    cases before with
    | nil => rfl
    | cons first before =>
        rcases List.exists_cons_of_ne_nil some with ⟨character, others, rfl⟩
        have shown := trimmed.first character rfl
        rw [(List.cons.inj split).1, beforeBlank first List.mem_cons_self] at shown
        cases shown
  rw [nothingBefore, List.nil_append] at split
  rcases List.append_eq_append_iff.mp split with ⟨kept, whole, behind⟩ | ⟨cut, whole, behind⟩
  · exact ⟨kept, back, whole, behind, backBlank⟩
  · rcases List.eq_nil_or_concat' cut with none | ⟨most, last, ends⟩
    · rw [none, List.append_nil] at whole
      rw [none, List.nil_append] at behind
      exact ⟨[], back, by rw [← whole, List.append_nil], behind.symm, backBlank⟩
    · have shown := trimmed.last last (by rw [whole, ends, ← List.append_assoc]; simp)
      rw [backBlank last (by rw [behind, ends]; simp)] at shown
      cases shown

private theorem isBlank_of_isMark {character : Char} (mark : isMark character) :
    isBlank character = false := by
  simp only [isMark, Bool.or_eq_true, beq_iff_eq] at mark
  rcases mark with ((rfl | rfl) | rfl) | rfl <;> decide

namespace Nesting

/-- A quote that is open was opened by a mark. -/
def Marked (nesting : Nesting) : Prop :=
  ∀ quote ∈ nesting.quote, isMark quote

theorem marked_outside : Marked .outside := nofun

private theorem Marked.advance (marked : nesting.Marked) (character : Char) :
    (nesting.advance character).Marked := by
  unfold Nesting.advance
  repeat' split
  case h_1.isTrue => nofun
  case h_1.isFalse => exact marked
  case h_2.isTrue quote =>
      intro opened same
      cases same
      rcases quote with rfl | rfl <;> decide
  case h_2.isFalse.isTrue => nofun
  case h_2.isFalse.isFalse.isTrue => nofun
  case h_2.isFalse.isFalse.isFalse => exact marked

private theorem Marked.after (marked : nesting.Marked) (text : List Char) :
    (nesting.after text).Marked := by
  induction text generalizing nesting with
  | nil => exact marked
  | cons character text induction => exact induction (marked.advance character)

private theorem Marked.advance_of_blank (marked : nesting.Marked) {character : Char}
    (blank : isBlank character) : nesting.advance character = nesting := by
  have unmarked : isMark character = false := by
    cases mark : isMark character with
    | false => rfl
    | true => rw [isBlank_of_isMark mark] at blank; cases blank
  rcases nesting with ⟨_ | quote, depth⟩
  · exact advance_of_not_mark unmarked rfl
  · have other : character ≠ quote := by
      intro same
      rw [same, marked quote rfl] at unmarked
      cases unmarked
    simp [Nesting.advance, other]

theorem Marked.after_of_blank (marked : nesting.Marked)
    (blank : ∀ character ∈ text, isBlank character) : nesting.after text = nesting := by
  induction text with
  | nil => rfl
  | cons character text induction =>
      rw [List.forall_mem_cons] at blank
      rw [after_cons, marked.advance_of_blank blank.1, induction blank.2]

theorem after_trim (text : List Char) : outside.after (trim text) = outside.after text := by
  rcases exists_around_trim text with ⟨front, back, split, frontBlank, backBlank⟩
  have whole := congrArg outside.after split
  rw [after_append, after_append, marked_outside.after_of_blank frontBlank,
    (marked_outside.after _).after_of_blank backBlank] at whole
  exact whole.symm

end Nesting

theorem Unbroken.trim (unbroken : Unbroken separator .outside text) :
    Unbroken separator .outside (trim text) := by
  rcases exists_around_trim text with ⟨front, back, split, frontBlank, _⟩
  rw [split, unbroken_append, unbroken_append,
    Nesting.marked_outside.after_of_blank frontBlank] at unbroken
  exact unbroken.1.2

end Text

/-! ## Words and numbers -/

def Text.isWordSign (character : Char) : Bool :=
  character.isAlphanum || character == '-' || character == '+' || character == '.'

namespace Number

open Text

theorem isWordSign_of_isDigit {character : Char} (digit : character.isDigit) :
    isWordSign character := by
  simp [isWordSign, Char.isAlphanum, digit]

private theorem isDigit_of_readNatural {text : List Char} {value : Nat}
    (read : readNatural text = some value) : ∀ character ∈ text, character.isDigit := by
  unfold readNatural at read
  split at read
  case isTrue => cases read
  case isFalse digits =>
      rw [Bool.or_eq_true, not_or, Bool.not_eq_true', Bool.not_eq_false] at digits
      exact List.all_eq_true.mp digits.2

theorem isWordSign_of_readInteger {text : List Char} {value : Int}
    (read : readInteger text = some value) : ∀ character ∈ text, isWordSign character := by
  have digits {rest : List Char} (unread : readNatural rest ≠ none) :
      ∀ character ∈ rest, isWordSign character := by
    rcases Option.ne_none_iff_exists'.mp unread with ⟨number, readNumber⟩
    intro character member
    exact isWordSign_of_isDigit (isDigit_of_readNatural readNumber character member)
  unfold readInteger at read
  split at read
  · refine List.forall_mem_cons.mpr ⟨rfl, digits ?_⟩
    intro unread
    simp [unread] at read
  · refine List.forall_mem_cons.mpr ⟨rfl, digits ?_⟩
    intro unread
    simp [unread] at read
  · refine digits ?_
    intro unread
    simp [unread] at read

private theorem isWordSign_of_readExponent {text : List Char} {value : Int}
    (read : readExponent text = some value) : ∀ character ∈ text, isWordSign character := by
  unfold readExponent at read
  split at read
  · nofun
  · split at read
    case isTrue mark =>
        refine List.forall_mem_cons.mpr ⟨?_, isWordSign_of_readInteger read⟩
        rcases mark with rfl | rfl <;> rfl
    case isFalse => cases read

private theorem isWordSign_of_readDecimal {text : List Char} {decimal : DecimalText}
    (read : readDecimal text = some decimal) : ∀ character ∈ text, isWordSign character := by
  have digits (text : List Char) : ∀ character ∈ text.takeWhile Char.isDigit,
      isWordSign character := by
    intro character member
    exact isWordSign_of_isDigit (List.mem_takeWhile_imp member)
  have both {first rest : List Char} (firstSigns : ∀ character ∈ first, isWordSign character)
      (restSigns : ∀ character ∈ rest, isWordSign character) :
      ∀ character ∈ first ++ rest, isWordSign character := by
    intro character member
    rcases List.mem_append.mp member with member | member
    · exact firstSigns character member
    · exact restSigns character member
  rw [← List.takeWhile_append_dropWhile (p := Char.isDigit) (l := text)]
  refine both (digits text) ?_
  unfold readDecimal at read
  dsimp only at read
  split at read
  case h_1 rest behind =>
      split at read
      · cases read
      · rcases Option.map_eq_some_iff.mp read with ⟨exponent, readRest, _⟩
        rw [behind, ← List.takeWhile_append_dropWhile (p := Char.isDigit) (l := rest)]
        exact List.forall_mem_cons.mpr
          ⟨rfl, both (digits rest) (isWordSign_of_readExponent readRest)⟩
  case h_2 =>
      split at read
      · cases read
      · rcases Option.map_eq_some_iff.mp read with ⟨exponent, readRest, _⟩
        exact isWordSign_of_readExponent readRest

private theorem isWordSign_of_toLower {character : Char} (letter : character.toLower.isAlpha) :
    isWordSign character := by
  have alpha : character.isAlpha := by
    by_cases upper : character.isUpper
    · exact Bool.or_eq_true_iff.mpr (.inl upper)
    · have same : character.toLower = character :=
        dif_neg fun bounds => upper (decide_eq_true bounds)
      rwa [same] at letter
  rw [isWordSign, Char.isAlphanum, alpha]
  rfl

private theorem isWordSign_of_word {text : List Char} {word : String}
    (letters : word.toList.all Char.isAlpha)
    (equal : String.ofList (text.map Char.toLower) = word) :
    ∀ character ∈ text, isWordSign character := by
  intro character member
  refine isWordSign_of_toLower (List.all_eq_true.mp letters _ ?_)
  rw [← equal, String.toList_ofList]
  exact List.mem_map_of_mem member

private theorem isWordSign_of_readMagnitude {text : List Char} {bits : Nat}
    (read : readMagnitude text = some bits) : ∀ character ∈ text, isWordSign character := by
  unfold readMagnitude at read
  dsimp only at read
  split at read
  case isTrue infinite =>
      rcases infinite with equal | equal
      · exact isWordSign_of_word (by decide) equal
      · exact isWordSign_of_word (by decide) equal
  case isFalse =>
      split at read
      case isTrue equal => exact isWordSign_of_word (by decide) equal
      case isFalse =>
          rcases Option.map_eq_some_iff.mp read with ⟨decimal, readText, _⟩
          exact isWordSign_of_readDecimal readText

private theorem isWordSign_of_readFloat {text : List Char} {value : Float}
    (read : readFloat text = some value) : ∀ character ∈ text, isWordSign character := by
  unfold readFloat at read
  split at read
  all_goals rcases Option.map_eq_some_iff.mp read with ⟨bits, readBits, _⟩
  · exact List.forall_mem_cons.mpr ⟨rfl, isWordSign_of_readMagnitude readBits⟩
  · exact List.forall_mem_cons.mpr ⟨rfl, isWordSign_of_readMagnitude readBits⟩
  · exact isWordSign_of_readMagnitude readBits

end Number

namespace Path

open Text

variable {separator : Char} {text : List Char}

theorem isWordSign_of_readWord {text : List Char}
    (other : ∀ string, readWord text ≠ .string string) :
    ∀ character ∈ text, isWordSign character := by
  have word (letters : String) (signs : letters.toList.all isWordSign)
      (equal : String.ofList text = letters) : ∀ character ∈ text, isWordSign character := by
    rwa [← equal, String.toList_ofList, List.all_eq_true] at signs
  unfold readWord at other
  dsimp only at other
  split at other
  case isTrue equal => exact word "true" (by decide) equal
  split at other
  case isTrue equal => exact word "false" (by decide) equal
  split at other
  case isTrue equal => exact word "none" (by decide) equal
  split at other
  case h_1 value read =>
      rcases Option.bind_eq_some_iff.mp read with ⟨number, readNumber, _⟩
      exact Number.isWordSign_of_readInteger readNumber
  case h_2 =>
      split at other
      case h_1 value read => exact Number.isWordSign_of_readFloat read
      case h_2 => exact absurd rfl (other _)

theorem pieces_of_unbroken (unbroken : Unbroken separator .outside text) :
    pieces separator text = [trim text].filter (!·.isEmpty) := by
  rw [pieces, splitOutside, splitWithin_of_unbroken unbroken, List.map_singleton]

theorem pieces_of_blank (unbroken : Unbroken separator .outside text) (blank : trim text = []) :
    pieces separator text = [] := by
  rw [pieces_of_unbroken unbroken, blank]
  rfl

theorem pieces_of_shown (unbroken : Unbroken separator .outside text) (shown : trim text ≠ []) :
    pieces separator text = [trim text] := by
  rw [pieces_of_unbroken unbroken]
  exact List.filter_cons_of_pos (by simp [shown])

theorem pieces_append_of_unbroken (unmarked : isMark separator = false) {front : List Char}
    (some : front ≠ []) (trimmed : Trimmed front) (unbroken : Unbroken separator .outside front)
    (rest : List Char) :
    ∃ more behind others, rest = more ++ behind ∧
      pieces separator (front ++ rest) = trim (front ++ more) :: others ∧
      (behind = [] ∨ Nesting.outside.after (front ++ more) = .outside) := by
  have shown (more : List Char) : trim (front ++ more) ≠ [] := by
    rcases trim_append some trimmed more with ⟨kept, _, equal, _, _⟩
    rw [equal]
    exact List.append_ne_nil_of_left_ne_nil some kept
  rcases unbroken_or_cut separator .outside (front ++ rest) with
    whole | ⟨first, behind, cut, firstUnbroken, ends⟩
  · exact ⟨rest, [], [], (List.append_nil rest).symm, pieces_of_shown whole (shown rest), .inl rfl⟩
  · rcases beyond_of_unbroken unbroken ends cut with ⟨more, rfl, split⟩
    refine ⟨more, separator :: behind, pieces separator behind, split, ?_, .inr ends⟩
    rw [cut, pieces_append unmarked ends, pieces_of_shown firstUnbroken (shown more)]
    rfl

end Path

end Criteria

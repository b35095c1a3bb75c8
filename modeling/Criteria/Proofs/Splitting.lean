import Criteria.Text.Blank
import Criteria.Text.Split
import Mathlib.Data.List.DropRight

/-!
Where text is split, and what trimming leaves alone.

A scan of the text carries along what is open. The separator cuts only on the outside, so a text
whose scan never meets it there is one part, and where a scan ends on the outside the text can be
cut in two and split piece by piece. A text is contained if its scan returns to where it started
without ever leaving an enclosing pair of parentheses.
-/

namespace Criteria.Text

def isMark (character : Char) : Bool :=
  character == '"' || character == '\'' || character == '(' || character == ')'

section

variable {separator : Char} {nesting : Nesting} {text rest : List Char}

/-! ## Scans -/

namespace Nesting

@[simp] theorem after_nil (nesting : Nesting) : nesting.after [] = nesting :=
  rfl

@[simp] theorem after_cons (nesting : Nesting) (character : Char) (rest : List Char) :
    nesting.after (character :: rest) = (nesting.advance character).after rest :=
  rfl

@[simp] theorem after_append (nesting : Nesting) (text rest : List Char) :
    nesting.after (text ++ rest) = (nesting.after text).after rest :=
  List.foldl_append

theorem advance_of_not_mark {character : Char} (unmarked : isMark character = false)
    (unquoted : nesting.quote = none) : nesting.advance character = nesting := by
  simp only [isMark, Bool.or_eq_false_iff, beq_eq_false_iff_ne] at unmarked
  simp [advance, unquoted, unmarked]

theorem after_of_no_marks (unmarked : ∀ character ∈ text, isMark character = false)
    (unquoted : nesting.quote = none) : nesting.after text = nesting := by
  induction text with
  | nil => rfl
  | cons character rest induction =>
      rw [List.forall_mem_cons] at unmarked
      rw [after_cons, advance_of_not_mark unmarked.1 unquoted, induction unmarked.2]

end Nesting

/-! ## Cuts -/

/-- A scan from here does not meet the separator on the outside. -/
def Unbroken (separator : Char) : Nesting → List Char → Prop
  | _, [] => True
  | nesting, character :: rest =>
      ¬ (character = separator ∧ nesting = .outside) ∧
        Unbroken separator (nesting.advance character) rest

theorem unbroken_append :
    Unbroken separator nesting (text ++ rest) ↔
      Unbroken separator nesting text ∧ Unbroken separator (nesting.after text) rest := by
  induction text generalizing nesting with
  | nil => simp [Unbroken]
  | cons character text induction =>
      rw [List.cons_append, Unbroken, Unbroken, Nesting.after_cons, induction, and_assoc]

theorem unbroken_of_not_mem (absent : separator ∉ text) : Unbroken separator nesting text := by
  induction text generalizing nesting with
  | nil => exact True.intro
  | cons character text induction =>
      rw [List.mem_cons, not_or] at absent
      exact ⟨fun cut => absent.1 cut.1.symm, induction absent.2⟩

theorem splitWithin_ne_nil (separator : Char) (nesting : Nesting) (text : List Char) :
    splitWithin separator nesting text ≠ [] := by
  cases text with
  | nil => exact List.cons_ne_nil _ _
  | cons character rest =>
      unfold splitWithin
      split
      · exact List.cons_ne_nil _ _
      · unfold consPart
        split <;> exact List.cons_ne_nil _ _

private theorem consPart_append {parts : List (List Char)} (some : parts ≠ []) (character : Char)
    (more : List (List Char)) :
    consPart character (parts ++ more) = consPart character parts ++ more := by
  cases parts with
  | nil => exact absurd rfl some
  | cons part parts => rfl

theorem splitWithin_of_unbroken (unbroken : Unbroken separator nesting text) :
    splitWithin separator nesting text = [text] := by
  induction text generalizing nesting with
  | nil => rfl
  | cons character rest induction =>
      rw [splitWithin, if_neg unbroken.1, induction unbroken.2]
      rfl

theorem splitWithin_append (unmarked : isMark separator = false)
    (ends : nesting.after text = .outside) (rest : List Char) :
    splitWithin separator nesting (text ++ separator :: rest) =
      splitWithin separator nesting text ++ splitWithin separator .outside rest := by
  induction text generalizing nesting with
  | nil =>
      rw [Nesting.after_nil] at ends
      rw [ends]
      simp [splitWithin]
  | cons character text induction =>
      rw [Nesting.after_cons] at ends
      rw [List.cons_append, splitWithin, splitWithin]
      split
      case isTrue cut =>
          have still : nesting.advance character = nesting := by
            rw [cut.1, cut.2]
            exact Nesting.advance_of_not_mark unmarked rfl
          rw [still] at ends
          rw [induction ends, List.cons_append]
      case isFalse =>
          rw [induction ends, consPart_append (splitWithin_ne_nil _ _ _)]

/-! ## Contained text -/

/-- Parentheses are balanced and quotes are closed. -/
structure Contained (text : List Char) : Prop where
  back : ∀ depth, (Nesting.mk none depth).after text = ⟨none, depth⟩
  inside : ∀ separator depth, Unbroken separator ⟨none, depth + 1⟩ text

private theorem ne_outside_of_quote {quote : Char} {depth : Nat} :
    Nesting.mk (some quote) depth ≠ .outside := by
  intro equal
  cases equal

theorem ne_outside_of_depth {depth : Nat} : Nesting.mk none (depth + 1) ≠ .outside := by
  intro equal
  cases equal

private theorem unbroken_inside_of_no_marks
    (unmarked : ∀ character ∈ text, isMark character = false)
    (depth : Nat) : Unbroken separator ⟨none, depth + 1⟩ text := by
  induction text with
  | nil => exact True.intro
  | cons character rest induction =>
      rw [List.forall_mem_cons] at unmarked
      refine ⟨fun cut => ne_outside_of_depth cut.2, ?_⟩
      rw [Nesting.advance_of_not_mark unmarked.1 rfl]
      exact induction unmarked.2

theorem contained_of_no_marks (unmarked : ∀ character ∈ text, isMark character = false) :
    Contained text where
  back _ := Nesting.after_of_no_marks unmarked rfl
  inside _ depth := unbroken_inside_of_no_marks unmarked depth

theorem Contained.append (first : Contained text) (second : Contained rest) :
    Contained (text ++ rest) where
  back depth := by rw [Nesting.after_append, first.back, second.back]
  inside separator depth := by
    rw [unbroken_append, first.back]
    exact ⟨first.inside separator depth, second.inside separator depth⟩

theorem quoted_scan {quote : Char} {depth : Nat} (absent : quote ∉ text) :
    (Nesting.mk (some quote) depth).after (text ++ [quote]) = ⟨none, depth⟩ ∧
      ∀ separator, Unbroken separator ⟨some quote, depth⟩ (text ++ [quote]) := by
  induction text with
  | nil =>
      refine ⟨by simp [Nesting.after, Nesting.advance], fun separator => ?_⟩
      exact ⟨fun cut => ne_outside_of_quote cut.2, True.intro⟩
  | cons character text induction =>
      rw [List.mem_cons, not_or] at absent
      have still : (Nesting.mk (some quote) depth).advance character = ⟨some quote, depth⟩ := by
        simp [Nesting.advance, Ne.symm absent.1]
      rcases induction absent.2 with ⟨back, unbroken⟩
      constructor
      · rw [List.cons_append, Nesting.after_cons, still, back]
      · intro separator
        refine ⟨fun cut => ne_outside_of_quote cut.2, ?_⟩
        rw [still]
        exact unbroken separator

theorem advance_double_quote (depth : Nat) :
    (Nesting.mk none depth).advance '"' = ⟨some '"', depth⟩ := by
  simp [Nesting.advance]

theorem unbroken_quoted {depth : Nat} (absent : '"' ∉ text)
    (starts : ¬ ('"' = separator ∧ Nesting.mk none depth = .outside)) :
    Unbroken separator ⟨none, depth⟩ ('"' :: (text ++ ['"'])) := by
  refine ⟨starts, ?_⟩
  rw [advance_double_quote]
  exact (quoted_scan absent).2 separator

theorem contained_quoted (absent : '"' ∉ text) : Contained ('"' :: (text ++ ['"'])) where
  back depth := by rw [Nesting.after_cons, advance_double_quote, (quoted_scan absent).1]
  inside _ _ := unbroken_quoted absent fun cut => ne_outside_of_depth cut.2

theorem Contained.parenthesized (contained : Contained text) (other : separator ≠ '(') :
    Unbroken separator .outside ('(' :: (text ++ [')'])) ∧
      Nesting.outside.after ('(' :: (text ++ [')'])) = .outside := by
  have opened : Nesting.outside.advance '(' = ⟨none, 1⟩ := by decide
  constructor
  · refine ⟨fun cut => other cut.1.symm, ?_⟩
    rw [opened, unbroken_append, contained.back]
    exact ⟨contained.inside separator 0, fun cut => ne_outside_of_depth cut.2, True.intro⟩
  · rw [Nesting.after_cons, opened, Nesting.after_append, contained.back]
    decide

/-! ## Trimming -/

structure Trimmed (text : List Char) : Prop where
  first : ∀ character ∈ text.head?, isBlank character = false
  last : ∀ character ∈ text.getLast?, isBlank character = false

instance (text : List Char) : Decidable (Trimmed text) :=
  have (found : Option Char) : Decidable (∀ character ∈ found, isBlank character = false) :=
    Option.decidableForallMem found
  decidable_of_iff
    ((∀ character ∈ text.head?, isBlank character = false) ∧
      ∀ character ∈ text.getLast?, isBlank character = false)
    ⟨fun ends => ⟨ends.1, ends.2⟩, fun trimmed => ⟨trimmed.first, trimmed.last⟩⟩

private theorem dropWhile_isBlank_of_head
    (first : ∀ character ∈ text.head?, isBlank character = false) :
    text.dropWhile isBlank = text := by
  cases text with
  | nil => rfl
  | cons character rest =>
      have shown := first character rfl
      rw [List.dropWhile_cons, shown]
      rfl

theorem Trimmed.trim_eq (trimmed : Trimmed text) : trim text = text := by
  have left : trimLeft text = text := dropWhile_isBlank_of_head trimmed.first
  have right : text.reverse.dropWhile isBlank = text.reverse :=
    dropWhile_isBlank_of_head (by rw [List.head?_reverse]; exact trimmed.last)
  rw [trim, left, trimRight, right, List.reverse_reverse]

theorem trimmed_concat {last : Char} (shown : isBlank last = false)
    (first : ∀ character ∈ text.head?, isBlank character = false) :
    Trimmed (text ++ [last]) where
  first := by
    cases text with
    | nil =>
        intro character found
        cases found
        exact shown
    | cons => exact first
  last := by
    intro character found
    rw [List.getLast?_concat] at found
    cases found
    exact shown

theorem head?_dropWhile (drops : Char → Bool) (text : List Char) :
    ∀ character ∈ (text.dropWhile drops).head?, drops character = false := by
  intro character first
  have kept := List.head?_dropWhile_not drops text
  rw [Option.mem_def.mp first] at kept
  exact kept

theorem exists_around (drops : Char → Bool) (text : List Char) :
    ∃ front back, text = front ++ (text.dropWhile drops).rdropWhile drops ++ back ∧
      (∀ character ∈ front, drops character) ∧ ∀ character ∈ back, drops character := by
  let inner := text.dropWhile drops
  have split : inner.rdropWhile drops ++ (inner.reverse.takeWhile drops).reverse = inner := by
    have reversed := congrArg List.reverse
      (List.takeWhile_append_dropWhile (p := drops) (l := inner.reverse))
    rwa [List.reverse_append, List.reverse_reverse] at reversed
  refine ⟨text.takeWhile drops, (inner.reverse.takeWhile drops).reverse, ?_, ?_, ?_⟩
  · rw [List.append_assoc, split, List.takeWhile_append_dropWhile]
  · intro character member
    exact List.mem_takeWhile_imp member
  · intro character member
    exact List.mem_takeWhile_imp (List.mem_reverse.mp member)

theorem exists_around_trim (text : List Char) :
    ∃ front back, text = front ++ trim text ++ back ∧
      (∀ character ∈ front, isBlank character) ∧ ∀ character ∈ back, isBlank character :=
  exists_around isBlank text

theorem trimmed_trim (text : List Char) : Trimmed (trim text) where
  first character first := by
    refine head?_dropWhile isBlank text character ?_
    rcases List.head?_eq_some_iff.mp first with ⟨rest, split⟩
    have initial : trim text <+: trimLeft text := List.rdropWhile_prefix isBlank _
    rcases initial with ⟨dropped, whole⟩
    change (trimLeft text).head? = some character
    rw [← whole, split]
    rfl
  last character last := by
    rw [trim, trimRight, List.getLast?_reverse] at last
    exact head?_dropWhile isBlank _ character last

theorem trim_cons_of_blank {character : Char} (blank : isBlank character) (text : List Char) :
    trim (character :: text) = trim text := by
  rw [trim, trim, trimLeft, trimLeft, List.dropWhile_cons_of_pos blank]

end

end Criteria.Text

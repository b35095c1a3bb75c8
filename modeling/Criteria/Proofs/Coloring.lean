import Criteria.Console.Line
import Criteria.Console.Report
import Criteria.Proofs.Cutting

/-!
Colour changes nothing but colour.

An escape sequence starts with an escape character and a bracket and ends with the next `m`. Taking
such sequences away is a scan with a flag, so what it makes of a text depends on what stands in
front. The coloured texts of the console always leave the flag as they found it: each is made of
text without escape characters and of complete sequences. That is stated for a text with anything
behind it, and then it holds of texts that are put together.
-/

namespace Criteria.Console

/-! ## Taking sequences away -/

/-- Whether the text so far ends within a sequence is carried along. A sequence that does not end
takes the rest of the text with it. -/
def erase (within : Bool) : List Char → List Char
  | [] => []
  | character :: rest =>
      if within then erase (character ≠ 'm') rest
      else if character = '\x1b' ∧ rest.head? = some '[' then erase true rest
      else character :: erase false rest

def uncolored (text : String) : String :=
  String.ofList (erase false text.toList)

def IsColorless (text : String) : Prop :=
  '\x1b' ∉ text.toList

instance (text : String) : Decidable (IsColorless text) :=
  inferInstanceAs (Decidable ('\x1b' ∉ text.toList))

private theorem erase_append_of_not_mem {text : List Char} (absent : '\x1b' ∉ text)
    (rest : List Char) : erase false (text ++ rest) = text ++ erase false rest := by
  induction text with
  | nil => rfl
  | cons character text induction =>
      rw [List.mem_cons, not_or] at absent
      have other : character ≠ '\x1b' := Ne.symm absent.1
      simp [erase, other, induction absent.2]

private theorem erase_within {code : List Char} (absent : 'm' ∉ code) (rest : List Char) :
    erase true (code ++ 'm' :: rest) = erase false rest := by
  induction code with
  | nil => simp [erase]
  | cons character code induction =>
      rw [List.mem_cons, not_or] at absent
      have other : character ≠ 'm' := Ne.symm absent.1
      simp [erase, other, induction absent.2]

private theorem erase_sequence {code : List Char} (absent : 'm' ∉ code) (rest : List Char) :
    erase false ('\x1b' :: '[' :: (code ++ 'm' :: rest)) = erase false rest := by
  have noneInside : 'm' ∉ '[' :: code := by simp [absent]
  have inside := erase_within noneInside rest
  rw [List.cons_append] at inside
  simpa [erase] using inside

/-- In front of any other text nothing is left of this one. -/
def Vanishes (text : String) : Prop :=
  ∀ rest, erase false (text.toList ++ rest) = erase false rest

theorem vanishes_sequence {code : String} (absent : 'm' ∉ code.toList) :
    Vanishes ("\x1b[" ++ code ++ "m") := by
  intro rest
  have whole : ("\x1b[" ++ code ++ "m").toList ++ rest =
      '\x1b' :: '[' :: (code.toList ++ 'm' :: rest) := by
    simp
  rw [whole, erase_sequence absent]

/-! ## Texts with and without colour -/

/-- With colour the text is the one without, up to sequences that end within it. -/
def OnlyColors (text : Bool → String) : Prop :=
  ∀ rest, erase false ((text true).toList ++ rest) = (text false).toList ++ erase false rest

namespace OnlyColors

variable {text first second : Bool → String}

private theorem uncolored_eq (colors : OnlyColors text) : uncolored (text true) = text false := by
  have whole := colors []
  simp only [List.append_nil, erase] at whole
  rw [uncolored, whole, String.ofList_toList]

theorem of_colorless {text : String} (colorless : IsColorless text) :
    OnlyColors fun _ => text :=
  erase_append_of_not_mem colorless

theorem append (firstColors : OnlyColors first) (secondColors : OnlyColors second) :
    OnlyColors fun color => first color ++ second color := by
  intro rest
  simp only [String.toList_append, List.append_assoc, firstColors _, secondColors _]

theorem within {opening closing : String} (opens : Vanishes opening) (closes : Vanishes closing)
    (colors : OnlyColors text) :
    OnlyColors fun color => if color then opening ++ text color ++ closing else text color := by
  intro rest
  simp only [if_true, Bool.false_eq_true, if_false, String.toList_append, List.append_assoc,
    opens _, colors _, closes _]

theorem paint (tone : Tone) (colors : OnlyColors text) :
    OnlyColors fun color => paint color tone (text color) := by
  have code : 'm' ∉ tone.code.toList := by cases tone <;> decide
  have back : Vanishes ("\x1b[" ++ "39" ++ "m") := vanishes_sequence (by decide)
  exact within (vanishes_sequence code) back colors

private theorem embolden (colors : OnlyColors text) :
    OnlyColors fun color => embolden color (text color) := by
  have bold : Vanishes ("\x1b[" ++ "1" ++ "m") := vanishes_sequence (by decide)
  have back : Vanishes ("\x1b[" ++ "0" ++ "m") := vanishes_sequence (by decide)
  exact within bold back colors

theorem paintBold (tone : Tone) (colors : OnlyColors text) :
    OnlyColors fun color => paintBold color tone (text color) :=
  (colors.paint tone).embolden

example : uncolored (Console.paintBold true .brightGreen "m[") = "m[" := by decide

theorem verdictMark (verdict : Bool) : OnlyColors fun color => verdictMark color verdict := by
  cases verdict
  · exact (of_colorless (by decide)).paint .brightRed
  · exact (of_colorless (by decide)).paint .brightGreen

end OnlyColors

end Criteria.Console

/-! ## Numbers -/

namespace Criteria.Number

open Text

theorem isWordSign_natural (value : Nat) : ∀ character ∈ natural value, isWordSign character :=
  fun _ member => isWordSign_of_isDigit (isDigit_of_mem_natural member)

private theorem isWordSign_integer (value : Int) :
    ∀ character ∈ integer value, isWordSign character := by
  intro character member
  rcases mem_integer member with rfl | digit
  · rfl
  · exact isWordSign_of_isDigit digit

theorem isWordSign_zeros (count : Nat) :
    ∀ character ∈ List.replicate count '0', isWordSign character := by
  intro character member
  rw [List.eq_of_mem_replicate member]
  rfl

namespace Decimal

private theorem isWordSign_positional (decimal : Decimal) :
    ∀ character ∈ decimal.positional, isWordSign character := by
  have digits := isWordSign_natural decimal.digits
  have zeros := isWordSign_zeros
  unfold positional digitCharacters
  dsimp only
  split
  · simp only [List.forall_mem_append, List.forall_mem_cons]
    exact ⟨⟨digits, zeros _⟩, rfl, rfl, nofun⟩
  · split
    · simp only [List.forall_mem_append, List.forall_mem_cons]
      exact ⟨fun _ member => digits _ (List.mem_of_mem_take member), rfl,
        fun _ member => digits _ (List.mem_of_mem_drop member)⟩
    · simp only [List.cons_append, List.forall_mem_append, List.forall_mem_cons]
      exact ⟨rfl, rfl, zeros _, digits⟩

private theorem isWordSign_scientific (decimal : Decimal) :
    ∀ character ∈ decimal.scientific, isWordSign character := by
  have digits := isWordSign_natural decimal.digits
  have power := isWordSign_integer (decimal.pointPosition - 1)
  unfold scientific digitCharacters
  dsimp only
  split
  case h_1 first second rest equal =>
      rw [equal] at digits
      simp only [List.cons_append, List.forall_mem_append, List.forall_mem_cons] at digits ⊢
      exact ⟨digits.1, rfl, digits.2.1, digits.2.2, rfl, power⟩
  case h_2 =>
      simp only [List.forall_mem_append, List.forall_mem_cons]
      exact ⟨digits, rfl, power⟩

end Decimal

theorem isWordSign_floatCharacters (value : Float) :
    ∀ character ∈ floatCharacters value, isWordSign character := by
  have sign : ∀ character ∈ (if hasMinusSign value then ['-'] else []), isWordSign character := by
    split <;> simp [isWordSign]
  unfold floatCharacters
  dsimp only
  split
  · simp [isWordSign]
  · exact List.forall_mem_append.mpr ⟨sign, by simp [isWordSign]⟩
  · exact List.forall_mem_append.mpr ⟨sign, by simp [isWordSign]⟩
  · refine List.forall_mem_append.mpr ⟨sign, ?_⟩
    unfold Decimal.characters
    split
    · exact Decimal.isWordSign_positional _
    · exact Decimal.isWordSign_scientific _

theorem isWordSign_fixedPlaces (places : Nat) (value : Float) :
    ∀ character ∈ fixedPlaces places value, isWordSign character := by
  unfold fixedPlaces
  split
  · dsimp only
    have padded (count digits : Nat) :
        ∀ character ∈ List.replicate count '0' ++ natural digits, isWordSign character :=
      List.forall_mem_append.mpr ⟨isWordSign_zeros _, isWordSign_natural _⟩
    simp only [List.forall_mem_append, List.forall_mem_cons]
    exact ⟨fun _ member => padded _ _ _ (List.mem_of_mem_take member), rfl,
      fun _ member => padded _ _ _ (List.mem_of_mem_drop member)⟩
  · exact isWordSign_floatCharacters value

private theorem mem_groupFromLast {digits : List Char} {character : Char}
    (member : character ∈ groupFromLast digits) : character = ',' ∨ character ∈ digits := by
  fun_induction groupFromLast digits with
  | case1 first second third fourth rest induction =>
      simp only [List.mem_cons] at member induction ⊢
      grind
  | case2 => exact .inr member

end Criteria.Number

namespace Criteria.Console

/-! ## Text without escape characters -/

namespace IsColorless

variable {first second : String}

theorem append (firstColorless : IsColorless first) (secondColorless : IsColorless second) :
    IsColorless (first ++ second) := by
  unfold IsColorless at firstColorless secondColorless ⊢
  simp [firstColorless, secondColorless]

theorem of_signs {characters : List Char}
    (signs : ∀ character ∈ characters, Text.isWordSign character) :
    IsColorless (String.ofList characters) := by
  intro member
  rw [String.toList_ofList] at member
  exact absurd (signs _ member) (by decide)

theorem natural (value : Nat) : IsColorless (toString value) :=
  of_signs (Number.isWordSign_natural value)

private theorem grouped (value : Nat) : IsColorless (Number.grouped value) := by
  intro member
  rw [Number.grouped, String.toList_ofList, List.mem_reverse] at member
  rcases Number.mem_groupFromLast member with comma | digit
  · exact absurd comma (by decide)
  · exact absurd (Number.isWordSign_natural value _ (List.mem_reverse.mp digit)) (by decide)

private theorem durationText (milliseconds : Nat) : IsColorless (durationText milliseconds) := by
  unfold Console.durationText
  split
  · exact (natural _).append (by decide)
  · split
    · exact (of_signs (Number.isWordSign_fixedPlaces _ _)).append (by decide)
    · exact (((natural _).append (by decide)).append (natural _)).append (by decide)

private theorem stampText (milliseconds : Nat) : IsColorless (stampText milliseconds) := by
  have padding (count : Nat) : IsColorless (String.ofList (List.replicate count ' ')) := by
    intro member
    rw [String.toList_ofList] at member
    exact absurd (List.eq_of_mem_replicate member) (by decide)
  unfold Console.stampText padLeft
  exact ((padding _).append (of_signs (Number.isWordSign_fixedPlaces _ _))).append (by decide)

end IsColorless

structure Times.AreColorless (times : Times) : Prop where
  stamp : IsColorless times.stamp
  duration : ∀ milliseconds, IsColorless (times.duration milliseconds)

private theorem Times.areColorless_atMillisecond (milliseconds : Nat) :
    (Times.atMillisecond milliseconds).AreColorless where
  stamp := .stampText milliseconds
  duration := .durationText

/-! ## Reports -/

namespace OnlyColors

private theorem entryLine {entry : TraceEntry} (colorless : IsColorless entry.condition) :
    OnlyColors fun color => entryLine color entry := by
  have start : OnlyColors fun color => "  " ++ Console.verdictMark color entry.passed :=
    (of_colorless (by decide)).append (verdictMark entry.passed)
  have blank : OnlyColors fun _ => " " := of_colorless (by decide)
  exact ((start.append blank).append (of_colorless colorless)).append (of_colorless (by decide))

private theorem entryLines {trace : Trace}
    (colorless : ∀ entry ∈ trace, IsColorless entry.condition) :
    OnlyColors fun color => String.join (trace.map (Console.entryLine color)) := by
  induction trace with
  | nil => exact of_colorless (by decide)
  | cons entry trace induction =>
      rw [List.forall_mem_cons] at colorless
      have lines := (entryLine colorless.1).append (induction colorless.2)
      simpa using lines

private theorem status (result : Bool) : OnlyColors fun color => status color result := by
  cases result
  · exact (of_colorless (by decide)).paintBold .brightRed
  · exact (of_colorless (by decide)).paintBold .brightGreen

private theorem report (result : Bool) {trace : Trace}
    (colorless : ∀ entry ∈ trace, IsColorless entry.condition) :
    OnlyColors (report result trace) := by
  have bar : OnlyColors fun _ => " │ " := of_colorless (by decide)
  have passed : OnlyColors fun _ => toString trace.passed.length :=
    of_colorless (.natural trace.passed.length)
  have passedLabel : OnlyColors fun _ => " passed │ " := of_colorless (by decide)
  have failed : OnlyColors fun _ => toString trace.failed.length :=
    of_colorless (.natural trace.failed.length)
  have failedLabel : OnlyColors fun _ => " failed\n" := of_colorless (by decide)
  exact ((((((entryLines colorless).append (status result)).append bar).append passed).append
    passedLabel).append failed).append failedLabel

/-! ## Event lines -/

theorem countText (count : Option Nat) :
    OnlyColors fun color => Summary.countText color count :=
  (of_colorless (.grouped _)).paint .brightYellow

variable {summary : Summary}

private theorem materializedText (colorless : ∀ text ∈ summary.criterion, IsColorless text) :
    OnlyColors fun color => summary.materializedText color := by
  have icon : OnlyColors fun color => Console.paintBold color .brightCyan "⚙" :=
    (of_colorless (by decide)).paintBold .brightCyan
  have label : OnlyColors fun _ => " Compiled │ " := of_colorless (by decide)
  have unit : OnlyColors fun _ => " nodes │ " := of_colorless (by decide)
  have criterion : OnlyColors fun _ => summary.criterion.getD "?" := by
    apply of_colorless
    cases found : summary.criterion with
    | none => decide
    | some text => exact colorless text found
  exact (((icon.append label).append (countText summary.nodes)).append unit).append criterion

private theorem queryText {times : Times} (plain : times.AreColorless)
    (colorless : ∀ text ∈ summary.criterion, IsColorless text) :
    OnlyColors fun color => summary.queryText times color := by
  have icon : OnlyColors fun color => Console.paintBold color .brightGreen "■" :=
    (of_colorless (by decide)).paintBold .brightGreen
  have label : OnlyColors fun _ => " Query (" := of_colorless (by decide)
  have mode : OnlyColors fun _ =>
      if summary.parallel.getD false then "parallel" else "sequential" := by
    apply of_colorless
    split <;> decide
  have bar : OnlyColors fun _ => ") │ " := of_colorless (by decide)
  have of : OnlyColors fun _ => " of " := of_colorless (by decide)
  have matched : OnlyColors fun _ => " matched │ " := of_colorless (by decide)
  have duration : OnlyColors fun _ => times.duration (summary.milliseconds.getD 0) :=
    of_colorless (plain.duration _)
  have counted := (((((((icon.append label).append mode).append bar).append
    (countText summary.matched)).append of).append (countText summary.items)).append
      matched).append duration
  unfold Summary.queryText
  cases found : summary.criterion with
  | none => exact counted.append (of_colorless (by decide))
  | some text =>
      have criterion : IsColorless (" │ " ++ text) :=
        IsColorless.append (by decide) (colorless text found)
      exact counted.append (of_colorless criterion)

private theorem memoMark (result : Option Bool) :
    OnlyColors fun color => Summary.memoMark color result := by
  cases result with
  | none => exact of_colorless (by decide)
  | some verdict => exact verdictMark verdict

private theorem memoText {what : String} (colorless : IsColorless what) :
    OnlyColors fun color => summary.memoText color what := by
  have label : OnlyColors fun _ => " Memo " := of_colorless (by decide)
  exact ((memoMark summary.result).append label).append (of_colorless colorless)

private theorem pressureText {detail : Bool → String} (colors : OnlyColors detail) :
    OnlyColors fun color => Summary.pressureText color (detail color) := by
  have icon : OnlyColors fun color => Console.paintBold color .yellow "!" :=
    (of_colorless (by decide)).paintBold .yellow
  have label : OnlyColors fun _ => " Memo " := of_colorless (by decide)
  exact (icon.append label).append colors

private theorem countedDetail {before behind : String} (count : Option Nat)
    (beforeColorless : IsColorless before) (behindColorless : IsColorless behind) :
    OnlyColors fun color =>
      Summary.pressureText color (before ++ Summary.countText color count ++ behind) :=
  pressureText (((of_colorless beforeColorless).append (countText count)).append
    (of_colorless behindColorless))

theorem content? {times : Times} (plain : times.AreColorless) (level : Level)
    (colorless : ∀ text ∈ summary.criterion, IsColorless text) :
    (∀ color, summary.content? times color level = none) ∨
      ∃ content, OnlyColors content ∧
        ∀ color, summary.content? times color level = some (content color) := by
  unfold Summary.content?
  split
  case h_1 => exact .inr ⟨_, materializedText colorless, fun _ => rfl⟩
  case h_2 => exact .inr ⟨_, queryText plain colorless, fun _ => rfl⟩
  case h_3 =>
      split
      · exact .inr ⟨_, memoText (by decide), fun _ => rfl⟩
      · exact .inl fun _ => rfl
  case h_4 =>
      split
      · exact .inr ⟨_, memoText (by decide), fun _ => rfl⟩
      · exact .inl fun _ => rfl
  case h_5 => exact .inr ⟨_, countedDetail summary.purged (by decide) (by decide), fun _ => rfl⟩
  case h_6 => exact .inr ⟨_, countedDetail summary.capacity (by decide) (by decide), fun _ => rfl⟩
  case h_7 => exact .inl fun _ => rfl

private theorem line {times : Times} (plain : times.AreColorless) (level : Level)
    (colorless : ∀ text ∈ summary.criterion, IsColorless text) :
    OnlyColors fun color => summary.line times color level := by
  have stamp : OnlyColors fun color => Console.paint color .brightBlack times.stamp ++ " " :=
    ((of_colorless plain.stamp).paint .brightBlack).append (of_colorless (by decide))
  unfold Summary.line
  rcases content? plain level colorless with none | ⟨content, colors, some⟩
  · simp only [none]
    exact of_colorless (by decide)
  · simp only [some]
    exact stamp.append colors

end OnlyColors

private theorem Summary.line_eq_empty_iff (times : Times) (color : Bool) (level : Level)
    (summary : Summary) :
    summary.line times color level = "" ↔ summary.content? times color level = none := by
  unfold line
  cases summary.content? times color level with
  | none => simp
  | some content => simp

/-- Without its escape sequences a coloured report is the report without colour, and so is every
coloured line of an event, as long as no escape character comes from outside: in a condition, in a
criterion or in a time. The times that a console shows have none. The same events have no line at
all. -/
theorem color_changes_only_color :
    (∀ (result : Bool) (trace : Trace), (∀ entry ∈ trace, IsColorless entry.condition) →
      uncolored (report result trace true) = report result trace false) ∧
    (∀ milliseconds, (Times.atMillisecond milliseconds).AreColorless) ∧
    ∀ (times : Times) (level : Level) (summary : Summary), times.AreColorless →
      (∀ text ∈ summary.criterion, IsColorless text) →
      uncolored (summary.line times true level) = summary.line times false level ∧
      (summary.line times true level = "" ↔ summary.line times false level = "") := by
  refine ⟨?_, Times.areColorless_atMillisecond, ?_⟩
  · intro result trace colorless
    exact (OnlyColors.report result colorless).uncolored_eq
  · intro times level summary plain colorless
    refine ⟨(OnlyColors.line plain level colorless).uncolored_eq, ?_⟩
    rw [Summary.line_eq_empty_iff, Summary.line_eq_empty_iff]
    rcases OnlyColors.content? plain level colorless with none | ⟨content, _, some⟩
    · simp only [none]
    · simp only [some, reduceCtorEq]

def mixedTrace : Trace :=
  [⟨"x.a = true", true⟩, ⟨"x.b = \"[31m\"", false⟩]

def compiledSummary : Summary :=
  { Summary.empty with event := some "materialize", nodes := some 1234, criterion := some "x.a" }

theorem mixedTrace_uncolored :
    (∀ entry ∈ mixedTrace, IsColorless entry.condition) ∧
    (∀ text ∈ compiledSummary.criterion, IsColorless text) ∧
    uncolored (report true mixedTrace true) = report true mixedTrace false ∧
    uncolored (compiledSummary.line (.atMillisecond 1500) true .debug) =
      compiledSummary.line (.atMillisecond 1500) false .debug := by
  have conditions : ∀ entry ∈ mixedTrace, IsColorless entry.condition := by decide
  have criterion : ∀ text ∈ compiledSummary.criterion, IsColorless text := by
    intro text found
    cases found
    decide
  rcases color_changes_only_color with ⟨reports, times, lines⟩
  exact ⟨conditions, criterion, reports true mixedTrace conditions,
    (lines _ .debug compiledSummary (times 1500) criterion).1⟩

end Criteria.Console

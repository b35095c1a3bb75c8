import Criteria.Number.Radix
import Criteria.Proofs.Numerals
import Criteria.Term.Text

/-!
Values that can be told apart by their text.

The text of a value ends where the value ends, whatever stands behind it; only a number needs
something behind it that is no digit. The kind of the value shows in the first characters, and from
there each kind is read in its own way: a number as far as the digits go, a string one escaped
character at a time up to the closing quote, a list item by item. Floats and records are left out,
because records are all shown alike.
-/

namespace Criteria

/-! ## Where a run of characters stops -/

namespace Text

variable {Character : Type}

theorem append_inj_of_stop {keeps : Character → Bool}
    {first second rest more : List Character}
    (firstKept : ∀ character ∈ first, keeps character)
    (secondKept : ∀ character ∈ second, keeps character)
    (restStops : ∀ character ∈ rest.head?, keeps character = false)
    (moreStops : ∀ character ∈ more.head?, keeps character = false)
    (equal : first ++ rest = second ++ more) : first = second ∧ rest = more := by
  have stopped {tail : List Character} (stops : ∀ character ∈ tail.head?, keeps character = false) :
      tail.takeWhile keeps = [] := by
    cases tail with
    | nil => rfl
    | cons character tail =>
        rw [List.takeWhile_cons_of_neg]
        rw [stops character rfl]
        exact Bool.false_ne_true
  have runs := congrArg (List.takeWhile keeps) equal
  rw [List.takeWhile_append_of_pos firstKept, List.takeWhile_append_of_pos secondKept,
    stopped restStops, stopped moreStops, List.append_nil, List.append_nil] at runs
  rw [runs] at equal
  exact ⟨runs, List.append_cancel_left equal⟩

end Text

/-! ## Numbers -/

namespace Number

def isNumeral (character : Char) : Bool :=
  character == '-' || character.isDigit

/-- The text goes on with something that is no part of a number, or not at all. -/
def Stops (rest : List Char) : Prop :=
  ∀ character ∈ rest.head?, isNumeral character = false

theorem isNumeral_of_mem_integer {value : Int} {character : Char}
    (member : character ∈ integer value) : isNumeral character := by
  rcases mem_integer member with rfl | digit
  · rfl
  · rw [isNumeral, digit, Bool.or_true]

theorem integer_eq_cons (value : Int) :
    ∃ first rest, integer value = first :: rest ∧ isNumeral first := by
  rcases List.exists_cons_of_ne_nil (integer_ne_nil value) with ⟨first, rest, split⟩
  have member : first ∈ integer value := by
    rw [split]
    exact List.mem_cons_self
  exact ⟨first, rest, split, isNumeral_of_mem_integer member⟩

private theorem integer_inj {left right : Int} (equal : integer left = integer right) :
    left = right := by
  have read := congrArg readInteger equal
  rw [readInteger_integer, readInteger_integer] at read
  exact Option.some.inj read

private theorem integer_append_inj {left right : Int} {rest more : List Char}
    (restStops : Stops rest)
    (moreStops : Stops more) (equal : integer left ++ rest = integer right ++ more) :
    left = right ∧ rest = more := by
  rcases Text.append_inj_of_stop (fun _ => isNumeral_of_mem_integer)
    (fun _ => isNumeral_of_mem_integer) restStops moreStops equal with ⟨same, rests⟩
  exact ⟨integer_inj same, rests⟩

private theorem digitValue?_digitChar :
    ∀ digit < 16, digitValue? 16 (Nat.digitChar digit) = some digit := by
  decide

private theorem readDigitsAfter_concat (radix total : Nat) (characters : List Char) (last : Char) :
    readDigitsAfter radix total (characters ++ [last]) =
      (readDigitsAfter radix total characters).bind fun before =>
        (digitValue? radix last).map (before * radix + ·) := by
  induction characters generalizing total with
  | nil =>
      simp only [List.nil_append, readDigitsAfter, Option.bind_some]
      cases digitValue? radix last <;> rfl
  | cons character rest induction =>
      rw [List.cons_append, readDigitsAfter, readDigitsAfter]
      cases digitValue? radix character with
      | none => rfl
      | some value => exact induction _

theorem readDigitsAfter_toDigits (value : Nat) :
    readDigitsAfter 16 0 (Nat.toDigits 16 value) = some value := by
  induction value using Nat.strongRecOn with
  | ind value induction =>
      rw [Nat.toDigits_eq_if (by decide)]
      split
      case isTrue small =>
          simp [readDigitsAfter, digitValue?_digitChar value small]
      case isFalse large =>
          rw [readDigitsAfter_concat, induction (value / 16) (by omega), Option.bind_some,
            digitValue?_digitChar _ (Nat.mod_lt value (by decide)), Option.map_some,
            Nat.mul_comm, Nat.div_add_mod]

theorem ne_brace_of_mem_toDigits {value : Nat} {character : Char}
    (member : character ∈ Nat.toDigits 16 value) : character ≠ '\x7d' := by
  induction value using Nat.strongRecOn with
  | ind value induction =>
      have digit : ∀ digit < 16, Nat.digitChar digit ≠ '\x7d' := by decide
      rw [Nat.toDigits_eq_if (by decide)] at member
      split at member
      case isTrue small =>
          rw [List.mem_singleton.mp member]
          exact digit value small
      case isFalse large =>
          rcases List.mem_append.mp member with member | member
          · exact induction (value / 16) (by omega) member
          · rw [List.mem_singleton.mp member]
            exact digit _ (Nat.mod_lt value (by decide))

private theorem toDigits_inj {left right : Nat}
    (equal : Nat.toDigits 16 left = Nat.toDigits 16 right) : left = right := by
  have read := congrArg (readDigitsAfter 16 0) equal
  rw [readDigitsAfter_toDigits, readDigitsAfter_toDigits] at read
  exact Option.some.inj read

end Number

/-! ## Strings -/

namespace Text

def marked? : Char → Option Char
  | '"' => some '"'
  | '\\' => some '\\'
  | 'n' => some '\n'
  | 'r' => some '\r'
  | 't' => some '\t'
  | '0' => some '\x00'
  | _ => none

inductive Escaped (character : Char) : List Char → Prop where
  | marked {letter : Char} (meaning : marked? letter = some character) :
      Escaped character ['\\', letter]
  | numbered : Escaped character (codePoint character)
  | plain (noQuote : character ≠ '"') (noMark : character ≠ '\\') : Escaped character [character]

private theorem escaped (character : Char) : Escaped character (escape character) := by
  have marked {other letter : Char} (equal : character = other)
      (meaning : marked? letter = some other) : Escaped character ['\\', letter] := by
    rw [equal]
    exact .marked meaning
  unfold escape
  split
  case isTrue equal => exact marked equal rfl
  case isFalse noQuote =>
      split
      case isTrue equal => exact marked equal rfl
      case isFalse noMark =>
          repeat' split
          case isTrue equal => exact marked equal rfl
          case isFalse.isTrue equal => exact marked equal rfl
          case isFalse.isFalse.isTrue equal => exact marked equal rfl
          case isFalse.isFalse.isFalse.isTrue equal => exact marked equal rfl
          case isFalse.isFalse.isFalse.isFalse.isTrue => exact .plain noQuote noMark
          case isFalse.isFalse.isFalse.isFalse.isFalse => exact .numbered

theorem codePoint_append (character : Char) (rest : List Char) :
    codePoint character ++ rest =
      '\\' :: 'u' :: '\x7b' :: (Nat.toDigits 16 character.toNat ++ '\x7d' :: rest) := by
  simp [codePoint]

private theorem codePoint_append_inj {left right : Char} {rest more : List Char}
    (equal : codePoint left ++ rest = codePoint right ++ more) : left = right ∧ rest = more := by
  rw [codePoint_append, codePoint_append] at equal
  have digitsKept (character : Char) :
      ∀ digit ∈ Nat.toDigits 16 character.toNat, (digit != '\x7d') = true :=
    fun _ member => bne_iff_ne.mpr (Number.ne_brace_of_mem_toDigits member)
  have braceStops (tail : List Char) :
      ∀ character ∈ ('\x7d' :: tail).head?, (character != '\x7d') = false := by simp
  injection equal with _ equal
  injection equal with _ equal
  injection equal with _ equal
  rcases append_inj_of_stop (digitsKept left) (digitsKept right) (braceStops rest)
    (braceStops more) equal with ⟨digits, rests⟩
  exact ⟨Char.toNat_inj.mp (Number.toDigits_inj digits), (List.cons.inj rests).2⟩

private theorem Escaped.append_inj {left right : Char} {first second rest more : List Char}
    (leftEscaped : Escaped left first) (rightEscaped : Escaped right second)
    (equal : first ++ rest = second ++ more) : left = right ∧ rest = more := by
  cases leftEscaped with
  | marked meaning =>
      cases rightEscaped with
      | marked otherMeaning =>
          injection equal with _ equal
          injection equal with same rests
          rw [same, otherMeaning] at meaning
          exact ⟨(Option.some.inj meaning).symm, rests⟩
      | numbered =>
          rw [codePoint_append] at equal
          injection equal with _ equal
          injection equal with same _
          rw [same] at meaning
          cases meaning
      | plain _ noMark =>
          injection equal with same _
          exact absurd same.symm noMark
  | numbered =>
      cases rightEscaped with
      | marked meaning =>
          rw [codePoint_append] at equal
          injection equal with _ equal
          injection equal with same _
          rw [← same] at meaning
          cases meaning
      | numbered => exact codePoint_append_inj equal
      | plain _ noMark =>
          rw [codePoint_append] at equal
          injection equal with same _
          exact absurd same.symm noMark
  | plain _ noMark =>
      cases rightEscaped with
      | marked =>
          injection equal with same _
          exact absurd same noMark
      | numbered =>
          rw [codePoint_append] at equal
          injection equal with same _
          exact absurd same noMark
      | plain => exact List.cons.inj equal

theorem Escaped.append_ne_quote {character : Char} {first rest more : List Char}
    (isEscaped : Escaped character first) : first ++ rest ≠ '"' :: more := by
  intro equal
  cases isEscaped with
  | marked => cases equal
  | numbered => cases equal
  | plain noQuote => exact noQuote (List.cons.inj equal).1

private theorem escapeAll_append_inj {left right rest more : List Char}
    (equal : escapeAll left ++ '"' :: rest = escapeAll right ++ '"' :: more) :
    left = right ∧ rest = more := by
  induction left generalizing right with
  | nil =>
      cases right with
      | nil => exact ⟨rfl, (List.cons.inj equal).2⟩
      | cons character right =>
          rw [escapeAll_cons, List.append_assoc] at equal
          exact absurd equal.symm (escaped character).append_ne_quote
  | cons character left induction =>
      cases right with
      | nil =>
          rw [escapeAll_cons, List.append_assoc] at equal
          exact absurd equal (escaped character).append_ne_quote
      | cons other right =>
          rw [escapeAll_cons, escapeAll_cons, List.append_assoc, List.append_assoc] at equal
          rcases (escaped character).append_inj (escaped other) equal with ⟨same, rests⟩
          rcases induction rests with ⟨sameTexts, rests⟩
          exact ⟨by rw [same, sameTexts], rests⟩

private theorem quoted_append_inj {left right rest more : List Char}
    (equal : quoted left ++ rest = quoted right ++ more) : left = right ∧ rest = more := by
  have unfolded (text tail : List Char) : quoted text ++ tail =
      '"' :: (escapeAll text ++ '"' :: tail) := by simp [quoted]
  rw [unfolded, unfolded] at equal
  exact escapeAll_append_inj (List.cons.inj equal).2

end Text

/-! ## Values -/

namespace Value

mutual
/-- Whether the value contains no float and no record, at any depth. -/
def isLegible : Value → Bool
  | .float _ => false
  | .record _ => false
  | .list items => areLegible items
  | _ => true

def areLegible : List Value → Bool
  | [] => true
  | item :: items => item.isLegible && areLegible items
end

abbrev Legible := { value : Value // value.isLegible }

def shownKind : List Char → String
  | 'n' :: _ => "none"
  | 't' :: _ => "bool"
  | 'f' :: _ => "bool"
  | '"' :: _ => "string"
  | '[' :: _ => "list"
  | 'd' :: 'a' :: 't' :: 'e' :: '(' :: _ => "date"
  | 'd' :: _ => "datetime"
  | _ => "int"

private theorem shownKind_integer (value : Int) (rest : List Char) :
    shownKind (Number.integer value ++ rest) = "int" := by
  rcases Number.integer_eq_cons value with ⟨first, more, split, numeral⟩
  rw [split, List.cons_append]
  unfold shownKind
  split
  case h_8 => rfl
  all_goals
    rename_i equal
    rw [(List.cons.inj equal).1] at numeral
    cases numeral

private theorem shownKind_append {value : Value} (legible : value.isLegible) (rest : List Char) :
    shownKind (value.characters ++ rest) = value.kind := by
  cases value with
  | bool verdict => cases verdict <;> rfl
  | int value => exact shownKind_integer value.toInt rest
  | float | record => cases legible
  | _ => rfl

def isClosing (character : Char) : Bool :=
  character == ']' || character == ')'

def Closes (rest : List Char) : Prop :=
  ∃ bracket tail, rest = bracket :: tail ∧ isClosing bracket

theorem isClosing_of_isNumeral {character : Char} (numeral : Number.isNumeral character) :
    isClosing character = false := by
  rw [isClosing, Bool.or_eq_false_iff, beq_eq_false_iff_ne, beq_eq_false_iff_ne]
  constructor
  · rintro rfl
    cases numeral
  · rintro rfl
    cases numeral

theorem Closes.stops {rest : List Char} (closes : Closes rest) : Number.Stops rest := by
  rcases closes with ⟨bracket, tail, rfl, closing⟩
  intro character first
  cases first
  cases numeral : Number.isNumeral bracket with
  | false => rfl
  | true =>
      rw [isClosing_of_isNumeral numeral] at closing
      cases closing

private theorem characters_eq_cons {value : Value} (legible : value.isLegible) :
    ∃ first rest, value.characters = first :: rest ∧ isClosing first = false := by
  cases value with
  | bool verdict => cases verdict <;> exact ⟨_, _, rfl, rfl⟩
  | int value =>
      rcases Number.integer_eq_cons value.toInt with ⟨first, rest, split, numeral⟩
      exact ⟨first, rest, split, isClosing_of_isNumeral numeral⟩
  | float | record => cases legible
  | _ => exact ⟨_, _, rfl, rfl⟩

private theorem characters_append_ne {value : Value} (legible : value.isLegible) (rest : List Char)
    {more : List Char} (closes : Closes more) : value.characters ++ rest ≠ more := by
  rcases closes with ⟨bracket, tail, rfl, closing⟩
  rcases characters_eq_cons legible with ⟨first, others, split, other⟩
  intro equal
  rw [split] at equal
  rw [(List.cons.inj equal).1, closing] at other
  cases other

def closing (rest : List Char) : List Value → List Char
  | [] => rest
  | item :: items => ',' :: ' ' :: (item.characters ++ closing rest items)

private theorem stops_closing {rest : List Char} (closes : Closes rest) (items : List Value) :
    Number.Stops (closing rest items) := by
  cases items with
  | nil => exact closes.stops
  | cons =>
      intro character first
      cases first
      rfl

private theorem separated_append (item : Value) (items : List Value) (rest : List Char) :
    separated (charactersOfAll (item :: items)) ++ rest =
      item.characters ++ closing rest items := by
  induction items generalizing item with
  | nil => rfl
  | cons next items induction =>
      have parts : separated (charactersOfAll (item :: next :: items)) =
          item.characters ++ ',' :: ' ' :: separated (charactersOfAll (next :: items)) := rfl
      rw [parts, List.append_assoc, List.cons_append, List.cons_append, induction next]
      rfl

theorem kind_eq_of_append_eq {left right : Value} {rest more : List Char}
    (leftLegible : left.isLegible) (rightLegible : right.isLegible)
    (equal : left.characters ++ rest = right.characters ++ more) : left.kind = right.kind := by
  rw [← shownKind_append leftLegible rest, equal, shownKind_append rightLegible more]

/-- The text of the value is the text of no other value, and it shows where the value ends. -/
def ToldApart (left : Value) : Prop :=
  ∀ {right : Value} {rest more : List Char}, left.isLegible → right.isLegible →
    Number.Stops rest → Number.Stops more →
    left.characters ++ rest = right.characters ++ more → left = right ∧ rest = more

/-- Two values of one kind, which is not that of lists. -/
inductive Alike : Value → Value → Prop where
  | none : Alike .none .none
  | bool {left right : Bool} : Alike (.bool left) (.bool right)
  | int {left right : Int64} : Alike (.int left) (.int right)
  | string {left right : String} : Alike (.string left) (.string right)
  | date {left right : Int32} : Alike (.date left) (.date right)
  | datetime {left right : Int64} : Alike (.datetime left) (.datetime right)

private theorem alike_of_kind_eq {left right : Value} (leftLegible : left.isLegible)
    (equal : left.kind = right.kind) (single : left.list? = Option.none) : Alike left right := by
  cases left with
  | float | record => cases leftLegible
  | list => cases single
  | _ => cases right <;> first | constructor | exact absurd equal (by simp [kind])

private theorem Alike.append_inj {left right : Value} (alike : Alike left right)
    {rest more : List Char} (restStops : Number.Stops rest) (moreStops : Number.Stops more)
    (equal : left.characters ++ rest = right.characters ++ more) :
    left = right ∧ rest = more := by
  have closed (tail : List Char) : Closes (')' :: tail) := ⟨')', tail, rfl, rfl⟩
  cases alike with
  | none => exact ⟨rfl, List.append_cancel_left equal⟩
  | @bool left right =>
      cases left <;> cases right <;> first
        | exact ⟨rfl, List.append_cancel_left equal⟩
        | cases equal
  | int =>
      rcases Number.integer_append_inj restStops moreStops equal with ⟨same, rests⟩
      exact ⟨congrArg Value.int (Int64.toInt_inj.mp same), rests⟩
  | string =>
      rcases Text.quoted_append_inj equal with ⟨same, rests⟩
      exact ⟨congrArg Value.string (String.toList_inj.mp same), rests⟩
  | date =>
      simp only [characters, List.append_assoc] at equal
      rcases Number.integer_append_inj (closed rest).stops (closed more).stops
        (List.append_cancel_left equal) with ⟨same, rests⟩
      exact ⟨congrArg Value.date (Int32.toInt_inj.mp same), (List.cons.inj rests).2⟩
  | datetime =>
      simp only [characters, List.append_assoc] at equal
      rcases Number.integer_append_inj (closed rest).stops (closed more).stops
        (List.append_cancel_left equal) with ⟨same, rests⟩
      exact ⟨congrArg Value.datetime (Int64.toInt_inj.mp same), (List.cons.inj rests).2⟩

private theorem toldApart_of_single {left : Value} (single : left.list? = Option.none) :
    ToldApart left := by
  intro right rest more leftLegible rightLegible restStops moreStops equal
  have kinds := kind_eq_of_append_eq leftLegible rightLegible equal
  exact (alike_of_kind_eq leftLegible kinds single).append_inj restStops moreStops equal

/-- If the items of two lists can be told apart, so can the lists. -/
theorem items_append_inj {left right : Value} {lefts rights : List Value} {rest more : List Char}
    (leftsLegible : areLegible (left :: lefts)) (rightsLegible : areLegible (right :: rights))
    (told : ∀ item ∈ left :: lefts, ToldApart item) (restCloses : Closes rest)
    (moreCloses : Closes more)
    (equal : left.characters ++ closing rest lefts = right.characters ++ closing more rights) :
    left :: lefts = right :: rights ∧ rest = more := by
  induction lefts generalizing left right rights with
  | nil =>
      rw [areLegible, Bool.and_eq_true_iff] at leftsLegible rightsLegible
      rcases told left List.mem_cons_self leftsLegible.1 rightsLegible.1
        (stops_closing restCloses []) (stops_closing moreCloses rights) equal with ⟨same, equal⟩
      cases rights with
      | nil => exact ⟨by rw [same], equal⟩
      | cons =>
          rcases restCloses with ⟨bracket, tail, rfl, closing⟩
          rw [(List.cons.inj equal).1] at closing
          cases closing
  | cons next lefts induction =>
      rw [areLegible, Bool.and_eq_true_iff] at leftsLegible rightsLegible
      rcases told left List.mem_cons_self leftsLegible.1 rightsLegible.1
        (stops_closing restCloses (next :: lefts)) (stops_closing moreCloses rights) equal with
        ⟨same, equal⟩
      cases rights with
      | nil =>
          rcases moreCloses with ⟨bracket, tail, rfl, closing⟩
          rw [← (List.cons.inj equal).1] at closing
          cases closing
      | cons other rights =>
          injection equal with _ equal
          injection equal with _ equal
          have nextTold : ∀ item ∈ next :: lefts, ToldApart item :=
            fun item member => told item (List.mem_cons_of_mem _ member)
          rcases induction leftsLegible.2 rightsLegible.2 nextTold equal with ⟨sameRest, rests⟩
          exact ⟨by rw [same, sameRest], rests⟩

private theorem separated_append_inj {lefts rights : List Value} {rest more : List Char}
    (leftsLegible : areLegible lefts) (rightsLegible : areLegible rights)
    (told : ∀ item ∈ lefts, ToldApart item) (restCloses : Closes rest) (moreCloses : Closes more)
    (equal : separated (charactersOfAll lefts) ++ rest =
      separated (charactersOfAll rights) ++ more) : lefts = rights ∧ rest = more := by
  cases lefts with
  | nil =>
      cases rights with
      | nil => exact ⟨rfl, equal⟩
      | cons right rights =>
          rw [separated_append] at equal
          have legible := (Bool.and_eq_true_iff.mp rightsLegible).1
          exact absurd equal.symm (characters_append_ne legible _ restCloses)
  | cons left lefts =>
      cases rights with
      | nil =>
          rw [separated_append] at equal
          have legible := (Bool.and_eq_true_iff.mp leftsLegible).1
          exact absurd equal (characters_append_ne legible _ moreCloses)
      | cons right rights =>
          rw [separated_append, separated_append] at equal
          exact items_append_inj leftsLegible rightsLegible told restCloses moreCloses equal

private theorem toldApart_list {lefts : List Value} (told : ∀ left ∈ lefts, ToldApart left) :
    ToldApart (.list lefts) := by
  intro right rest more leftLegible rightLegible _ _ equal
  have kinds := kind_eq_of_append_eq leftLegible rightLegible equal
  cases right with
  | list rights =>
      have closed (tail : List Char) : Closes (']' :: tail) := ⟨']', tail, rfl, rfl⟩
      simp only [characters, List.cons_append, List.append_assoc] at equal
      rcases separated_append_inj leftLegible rightLegible told (closed rest) (closed more)
        (List.cons.inj equal).2 with ⟨same, rests⟩
      exact ⟨congrArg Value.list same, (List.cons.inj rests).2⟩
  | _ => exact absurd kinds (by simp [kind])

theorem toldApart : ∀ value : Value, ToldApart value
  | .list items => toldApart_list fun item _ => toldApart item
  | .none => toldApart_of_single rfl
  | .bool _ => toldApart_of_single rfl
  | .int _ => toldApart_of_single rfl
  | .float _ => toldApart_of_single rfl
  | .string _ => toldApart_of_single rfl
  | .date _ => toldApart_of_single rfl
  | .datetime _ => toldApart_of_single rfl
  | .record _ => toldApart_of_single rfl

theorem text_inj {left right : Value} (leftLegible : left.isLegible)
    (rightLegible : right.isLegible) (equal : left.text = right.text) : left = right := by
  have ends : Number.Stops [] := nofun
  have shown := congrArg (· ++ []) (String.ofList_inj.mp equal)
  exact (toldApart left leftLegible rightLegible ends ends shown).1

/-! ## Descriptions -/

theorem toList_describe {value : Value} (legible : value.isLegible) (present : value ≠ .none) :
    value.describe.toList = value.kind.toList ++ ' ' :: value.characters := by
  have parts : (value.kind ++ " " ++ value.text).toList =
      value.kind.toList ++ ' ' :: value.characters := by
    simp [text]
  cases value with
  | none => exact absurd rfl present
  | float | record => cases legible
  | _ => exact parts

theorem kind_inside (value : Value) :
    ∀ character ∈ value.kind.toList, (character != ' ') = true := by
  cases value <;> simp [kind]

private theorem describe_append_ne {value : Value} (legible : value.isLegible)
    (present : value ≠ .none) (rest more : List Char) :
    value.describe.toList ++ rest ≠ Value.none.describe.toList ++ more := by
  rw [toList_describe legible present, List.append_assoc]
  cases value with
  | none => exact absurd rfl present
  | float | record => cases legible
  | _ => simp [kind, describe]

theorem describe_append_inj {left right : Value} {rest more : List Char}
    (leftLegible : left.isLegible) (rightLegible : right.isLegible)
    (restStops : Number.Stops rest) (moreStops : Number.Stops more)
    (equal : left.describe.toList ++ rest = right.describe.toList ++ more) :
    left = right ∧ rest = more := by
  by_cases leftPresent : left = .none
  · by_cases rightPresent : right = .none
    · rw [leftPresent, rightPresent] at equal
      exact ⟨by rw [leftPresent, rightPresent], List.append_cancel_left equal⟩
    · rw [leftPresent] at equal
      exact absurd equal.symm (describe_append_ne rightLegible rightPresent more rest)
  · by_cases rightPresent : right = .none
    · rw [rightPresent] at equal
      exact absurd equal (describe_append_ne leftLegible leftPresent rest more)
    · rw [toList_describe leftLegible leftPresent, toList_describe rightLegible rightPresent,
        List.append_assoc, List.append_assoc] at equal
      have blankStops (tail : List Char) :
          ∀ character ∈ (' ' :: tail).head?, (character != ' ') = false := by simp
      rcases Text.append_inj_of_stop left.kind_inside right.kind_inside (blankStops _)
        (blankStops _) equal with ⟨_, equal⟩
      exact toldApart left leftLegible rightLegible restStops moreStops (List.cons.inj equal).2

end Value

end Criteria

import Criteria.Console.Line
import Criteria.Proofs.Splitting
import Criteria.Query
import Criteria.Sample.Gallery

/-!
What console lines show of a criterion.

The lines for a compiled closure and for a query end with a bar and the text of the criterion. The
text arrives in its debugging form, so the console takes the double quotes at its ends away. A text
that begins or ends with a quote, such as a comparison with a string or a quoted name, is not shown
as it is; every other text is.
-/

namespace Criteria.Console

/-! ## Quotes at the ends -/

namespace Summary

/-- The text neither begins nor ends with a double quote. -/
def IsBare (text : String) : Prop :=
  text.toList.head? ≠ some '"' ∧ text.toList.getLast? ≠ some '"'

instance (text : String) : Decidable (IsBare text) :=
  inferInstanceAs (Decidable (_ ∧ _))

theorem toList_unquoted (text : String) :
    (unquoted text).toList = (text.toList.dropWhile (· == '"')).rdropWhile (· == '"') := by
  rw [unquoted, String.toList_ofList]
  rfl

theorem getLast?_unquoted (text : String) : (unquoted text).toList.getLast? ≠ some '"' := by
  rw [toList_unquoted]
  intro last
  rcases List.getLast?_eq_some_iff.mp last with ⟨before, split⟩
  have kept := List.rdropWhile_last_not (· == '"') (text.toList.dropWhile (· == '"'))
    (by rw [split]; simp)
  simp [split] at kept

theorem exists_around_unquoted (text : String) :
    ∃ front back, text.toList = front ++ (unquoted text).toList ++ back ∧
      (∀ character ∈ front, character = '"') ∧ ∀ character ∈ back, character = '"' := by
  rcases Text.exists_around (· == '"') text.toList with
    ⟨front, back, split, frontQuotes, backQuotes⟩
  rw [← toList_unquoted] at split
  exact ⟨front, back, split, fun _ member => eq_of_beq (frontQuotes _ member),
    fun _ member => eq_of_beq (backQuotes _ member)⟩

private theorem head?_of_unquoted_eq_self {text : String} (equal : unquoted text = text) :
    text.toList.head? ≠ some '"' := by
  intro head
  rcases List.head?_eq_some_iff.mp head with ⟨rest, split⟩
  have kept := congrArg String.toList equal
  rw [toList_unquoted, split, List.dropWhile_cons_of_pos (by rfl)] at kept
  have shorter := ((List.rdropWhile_prefix (· == '"') _).length_le).trans
    (List.dropWhile_suffix (l := rest) (· == '"')).length_le
  rw [kept] at shorter
  exact absurd shorter (Nat.not_succ_le_self _)

private theorem unquoted_eq_self_iff (text : String) : unquoted text = text ↔ IsBare text := by
  constructor
  · intro equal
    refine ⟨head?_of_unquoted_eq_self equal, ?_⟩
    rw [← equal]
    exact getLast?_unquoted text
  · rintro ⟨head, last⟩
    have front : text.toList.dropWhile (· == '"') = text.toList := by
      cases split : text.toList with
      | nil => rfl
      | cons first rest =>
          rw [split] at head
          exact List.dropWhile_cons_of_neg (by simpa using head)
    have back : text.toList.rdropWhile (· == '"') = text.toList := by
      rw [List.rdropWhile_eq_self_iff]
      intro nonempty quote
      rw [List.getLast?_eq_some_getLast nonempty, eq_of_beq quote] at last
      exact last rfl
    rw [← String.toList_inj, toList_unquoted, front, back]

end Summary

/-! ## The end of a line -/

namespace Summary

private theorem exists_materializedText (color : Bool) {summary : Summary} {text : String}
    (shown : summary.criterion = some text) :
    ∃ before, summary.materializedText color = before ++ "│ " ++ text := by
  refine ⟨paintBold color .brightCyan "⚙" ++ " Compiled │ " ++
    countText color summary.nodes ++ " nodes ", ?_⟩
  have bar : " nodes │ " = " nodes " ++ "│ " := rfl
  rw [materializedText, shown, bar, Option.getD_some, ← String.append_assoc]

private theorem exists_queryText (times : Times) (color : Bool) {summary : Summary} {text : String}
    (shown : summary.criterion = some text) :
    ∃ before, summary.queryText times color = before ++ "│ " ++ text := by
  have bar : " │ " = " " ++ "│ " := rfl
  rw [queryText, shown, bar]
  simp only [← String.append_assoc]
  exact ⟨_, rfl⟩

end Summary

namespace Notice

def EndsWith (notice : Notice) (text : String) : Prop :=
  ∀ times color, ("│ " ++ text ++ "\n").toList <:+ (notice.output times color).toList

private theorem output_of_content {notice : Notice} {times : Times} {color : Bool}
    {content : String} (family : targetFamily.toList.isPrefixOf notice.target.toList)
    (shown : (Summary.ofFields notice.fields).content? times color notice.level = some content) :
    notice.output times color =
      paint color .brightBlack times.stamp ++ " " ++ content ++ "\n" := by
  have printed : (paint color .brightBlack times.stamp ++ " " ++ content).isEmpty = false := by
    simp
  rw [output, if_pos family, Summary.line, shown]
  dsimp only
  rw [printed]
  rfl

theorem endsWith_of_content {notice : Notice} {text : String}
    (family : targetFamily.toList.isPrefixOf notice.target.toList)
    (shown : ∀ times color, ∃ before,
      (Summary.ofFields notice.fields).content? times color notice.level =
        some (before ++ "│ " ++ text)) : notice.EndsWith text := by
  intro times color
  rcases shown times color with ⟨before, shown⟩
  rw [output_of_content family shown]
  refine ⟨(paint color .brightBlack times.stamp ++ " " ++ before).toList, ?_⟩
  simp only [String.toList_append, List.append_assoc]

theorem endsWith_materialized (nodes : Nat) (text : String) :
    (ofEvent (.materialized nodes text)).EndsWith (Summary.unquoted text) := by
  have family : targetFamily.toList.isPrefixOf "specforge_core::spec".toList := by decide
  refine endsWith_of_content family ?_
  intro times color
  let summary := Summary.ofFields (ofEvent (.materialized nodes text)).fields
  have shown : summary.criterion = some (Summary.unquoted text) := rfl
  rcases Summary.exists_materializedText color shown with ⟨before, equal⟩
  exact ⟨before, congrArg some equal⟩

theorem endsWith_queryEnded (items matched milliseconds : Nat) (parallel : Bool) (text : String) :
    (ofEvent (.queryEnded items matched milliseconds parallel text)).EndsWith
      (Summary.unquoted text) := by
  have family : targetFamily.toList.isPrefixOf "specforge::query".toList := by decide
  refine endsWith_of_content family ?_
  intro times color
  let summary :=
    Summary.ofFields (ofEvent (.queryEnded items matched milliseconds parallel text)).fields
  have shown : summary.criterion = some (Summary.unquoted text) := rfl
  rcases Summary.exists_queryText times color shown with ⟨before, equal⟩
  exact ⟨before, congrArg some equal⟩

private theorem last_eq {before others : List Char} {last quote : Char}
    (equal : before ++ [last] = others ++ [quote]) : last = quote :=
  List.singleton_inj.mp (List.append_inj' equal rfl).2

theorem around_eq_nil {start other inner front back : List Char}
    (unquotedEnd : inner.getLast? ≠ some '"')
    (frontQuotes : ∀ character ∈ front, character = '"')
    (backQuotes : ∀ character ∈ back, character = '"')
    (equal : start ++ ['│', ' '] ++ inner = other ++ ['│', ' '] ++ (front ++ inner ++ back)) :
    front = [] ∧ back = [] := by
  have backNone : back = [] := by
    rcases List.eq_nil_or_concat' back with none | ⟨before, quote, rfl⟩
    · exact none
    · have isQuote := backQuotes quote (by simp)
      rcases List.eq_nil_or_concat' inner with rfl | ⟨most, last, rfl⟩
      · have ends : (start ++ ['│']) ++ [' '] =
            (other ++ ['│', ' '] ++ front ++ before) ++ [quote] := by simpa using equal
        rw [isQuote] at ends
        exact absurd (last_eq ends) (by decide)
      · have ends : (start ++ ['│', ' '] ++ most) ++ [last] =
            (other ++ ['│', ' '] ++ front ++ most ++ [last] ++ before) ++ [quote] := by
          simpa using equal
        rw [last_eq ends, isQuote] at unquotedEnd
        simp at unquotedEnd
  rw [backNone, List.append_nil, ← List.append_assoc] at equal
  rcases List.eq_nil_or_concat' front with none | ⟨before, quote, rfl⟩
  · exact ⟨none, backNone⟩
  · have isQuote := frontQuotes quote (by simp)
    have ends : (start ++ ['│']) ++ [' '] = (other ++ ['│', ' '] ++ before) ++ [quote] := by
      simpa using List.append_cancel_right equal
    rw [isQuote] at ends
    exact absurd (last_eq ends) (by decide)

theorem EndsWith.iff_isBare {notice : Notice} {text : String}
    (ends : notice.EndsWith (Summary.unquoted text)) :
    notice.EndsWith text ↔ Summary.IsBare text := by
  constructor
  · intro endsWithText
    rcases ends ⟨"", fun _ => ""⟩ false with ⟨start, shown⟩
    rcases endsWithText ⟨"", fun _ => ""⟩ false with ⟨other, shownText⟩
    rcases Summary.exists_around_unquoted text with ⟨front, back, split, frontQuotes, backQuotes⟩
    have equal := shown.trans shownText.symm
    simp only [String.toList_append, ← List.append_assoc] at equal
    have lines := List.append_cancel_right equal
    rw [split] at lines
    rcases around_eq_nil (Summary.getLast?_unquoted text) frontQuotes backQuotes lines with
      ⟨rfl, rfl⟩
    rw [List.nil_append, List.append_nil] at split
    exact (Summary.unquoted_eq_self_iff text).mp (String.toList_inj.mp split.symm)
  · intro bare
    rwa [(Summary.unquoted_eq_self_iff text).mpr bare] at ends

/-- How the line of an event shows a criterion: without the quotes at its ends. -/
def ShowsUnquoted (event : Event) (text : String) : Prop :=
  (ofEvent event).EndsWith (Summary.unquoted text) ∧
    ((ofEvent event).EndsWith text ↔ Summary.IsBare text)

end Notice

/-! ## Lines about criteria -/

section

variable {World : Type}

theorem exists_note {criterion : Criterion World} {ready : ReadyClosures} {touches : List Touch}
    (unready : criterion.identity ∉ ready.identities)
    (used : touches.head? = some criterion.closureUse) :
    ∃ others, (ready.note touches).1 =
      .materialized criterion.body.size criterion.text :: others := by
  rcases List.head?_eq_some_iff.mp used with ⟨rest, rfl⟩
  rw [Criterion.closureUse, ReadyClosures.note, if_neg (by simpa using unready)]
  exact ⟨_, rfl⟩

variable [Records World]

private theorem head?_touches_evaluate {criterion : Criterion World} (cached : criterion.isCached)
    (entity : Record) (world : World) :
    (criterion.evaluate entity world).touches.head? = some criterion.closureUse := by
  rcases criterion with ⟨identity, name, predicate, _ | _ | source⟩
  · cases cached
  · cases cached
  · rw [Criterion.evaluate, Probe.touch_bind]
    rfl

omit [Records World] in
private theorem head?_touches_prepare {Answer : Type} {criterion : Criterion World}
    (cached : criterion.isCached) (rest : Probe World Answer) (world : World) :
    ((do Query.prepare criterion; rest) world).touches.head? = some criterion.closureUse := by
  rw [Query.prepare, if_pos cached, Probe.touch_bind]
  rfl

/-- Console lines show the text of a criterion without the double quotes at its ends, and so they
show it unchanged exactly if it neither begins nor ends with one. This holds for the line about the
closure of a cached criterion, whatever uses it first, and for the line at the end of a query. -/
theorem lines_show_unquoted_text (criterion : Criterion World) :
    (criterion.isCached → ∀ ready : ReadyClosures, criterion.identity ∉ ready.identities →
      ∀ (supply : Supply) (entity : Record) (entities : List Record) (world : World),
      ∀ touches ∈ [(criterion.evaluate entity world).touches, (criterion.compiled supply).1.2,
          (Query.filter criterion entities world).touches,
          (Query.parallelFilter criterion entities world).touches,
          (Query.count criterion entities world).touches],
        ∃ nodes others,
          (ready.note touches).1 = .materialized nodes criterion.text :: others ∧
          Notice.ShowsUnquoted (.materialized nodes criterion.text) criterion.text) ∧
    ∀ (entities matched : List Record) (milliseconds : Nat) (parallel : Bool),
      Notice.ShowsUnquoted (Query.report criterion entities matched milliseconds parallel)
        criterion.text := by
  constructor
  · intro cached ready unready supply entity entities world touches member
    have used : touches.head? = some criterion.closureUse := by
      simp only [List.mem_cons, List.not_mem_nil, or_false] at member
      rcases member with rfl | rfl | rfl | rfl | rfl
      · exact head?_touches_evaluate cached entity world
      · rw [Criterion.compiled, if_pos cached]
        rfl
      · exact head?_touches_prepare cached _ world
      · exact head?_touches_prepare cached _ world
      · exact head?_touches_prepare cached _ world
    rcases exists_note unready used with ⟨others, noted⟩
    have ends := Notice.endsWith_materialized criterion.body.size criterion.text
    exact ⟨_, others, noted, ends, ends.iff_isBare⟩
  · intro entities matched milliseconds parallel
    have ends := Notice.endsWith_queryEnded entities.length matched.length milliseconds parallel
      criterion.text
    exact ⟨ends, ends.iff_isBare⟩

end

section

open Sample

def oneHolder : Gallery :=
  ⟨#[.openRecord ⟨[("tier", .string "gold")], []⟩]⟩

def isGold : Criterion Gallery :=
  (Criterion.compare (Path.root.member "tier") .eq (.string "gold") ⟨0⟩).1

def isGoldCached : Criterion Gallery :=
  (isGold.cached ⟨2⟩).1

theorem isGoldCached_shown :
    isGoldCached.isCached ∧ isGoldCached.identity ∉ ReadyClosures.none.identities ∧
    ∃ nodes others,
      (ReadyClosures.none.note (isGoldCached.evaluate ⟨0⟩ oneHolder).touches).1 =
        .materialized nodes isGoldCached.text :: others ∧
      Notice.ShowsUnquoted (.materialized nodes isGoldCached.text) isGoldCached.text :=
  ⟨rfl, by decide, (lines_show_unquoted_text isGoldCached).1 rfl .none (by decide) ⟨3⟩ ⟨0⟩ []
    oneHolder _ List.mem_cons_self⟩

/-- The quote at the end of the comparison is lost. -/
theorem quote_of_isGold_lost :
    isGold.text = "x.tier = \"gold\"" ∧ isGoldCached.text = isGold.text ∧
    (ReadyClosures.none.note (isGoldCached.evaluate ⟨0⟩ oneHolder).touches).1 =
      [.materialized 4 isGoldCached.text] ∧
    ¬ (Notice.ofEvent (.materialized 4 isGoldCached.text)).EndsWith isGoldCached.text ∧
    (Query.filter isGold [⟨0⟩] oneHolder).answer = .ok [⟨0⟩] ∧
    ¬ (Notice.ofEvent (Query.report isGold [⟨0⟩] [⟨0⟩] 0 false)).EndsWith isGold.text := by
  have text : isGold.text = "x.tier = \"gold\"" := rfl
  have cachedText : isGoldCached.text = isGold.text := rfl
  have quoted : ¬ Summary.IsBare isGold.text := by
    rw [text]
    decide
  refine ⟨text, cachedText, rfl, ?_, rfl, ?_⟩
  · rw [cachedText]
    exact (Notice.endsWith_materialized 4 isGold.text).iff_isBare.not.mpr quoted
  · exact (Notice.endsWith_queryEnded 1 1 0 false isGold.text).iff_isBare.not.mpr quoted

end

end Criteria.Console

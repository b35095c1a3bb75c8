import Criteria.Proofs.Cutting

/-!
What splitting keeps, and how it composes.

A separator cuts only where the scan is on the outside, and it leaves the scan there. So the scan of
every part starts where the scan of a text of its own starts: a part is not cut again, and it does
not matter what stood in front of it. Nothing here asks for balanced text.
-/

namespace Criteria

namespace Text

/-! ## Parts -/

section

variable {separator : Char} (unmarked : isMark separator = false)

include unmarked

theorem splitOutside_cut {first : List Char} (unbroken : Unbroken separator .outside first)
    (ends : Nesting.outside.after first = .outside) (rest : List Char) :
    splitOutside separator (first ++ separator :: rest) =
      first :: splitOutside separator rest := by
  unfold splitOutside
  rw [splitWithin_append unmarked ends, splitWithin_of_unbroken unbroken]
  rfl

theorem intercalate_splitOutside (text : List Char) :
    [separator].intercalate (splitOutside separator text) = text := by
  induction text using cut_induction separator with
  | whole text unbroken =>
      unfold splitOutside
      simp [splitWithin_of_unbroken unbroken, List.intercalate]
  | cut first rest unbroken ends induction =>
      have some : splitOutside separator rest ≠ [] := splitWithin_ne_nil separator .outside rest
      rcases List.exists_cons_of_ne_nil some with ⟨second, others, split⟩
      rw [split] at induction
      rw [splitOutside_cut unmarked unbroken ends, split, ← induction]
      simp [List.intercalate]

theorem unbroken_of_mem_splitOutside {text part : List Char}
    (member : part ∈ splitOutside separator text) : Unbroken separator .outside part := by
  induction text using cut_induction separator with
  | whole text unbroken =>
      unfold splitOutside at member
      rw [splitWithin_of_unbroken unbroken] at member
      rw [List.mem_singleton.mp member]
      exact unbroken
  | cut first rest unbroken ends induction =>
      rw [splitOutside_cut unmarked unbroken ends] at member
      rcases List.mem_cons.mp member with rfl | later
      · exact unbroken
      · exact induction later

end

end Text

namespace Path

open Text

/-! ## Paths -/

private theorem parse_append {first : String} (ends : Nesting.outside.after first.toList = .outside)
    (second : String) :
    (parse (first ++ "." ++ second)).steps = (parse first).steps ++ (parse second).steps := by
  have split : (first ++ "." ++ second).toList = first.toList ++ '.' :: second.toList := by simp
  unfold parse
  rw [split, pieces_append rfl ends, List.map_append]

end Path

namespace Text

/-- Joined with the separator, the parts of any text are the text again, and no part can be split
further. Where the scan of a text ends on the outside, a separator and any text behind it add the
parts of that text; so a point and a path behind such a text add the steps of that path. -/
theorem splitting_loses_nothing_and_composes {separator : Char}
    (unmarked : isMark separator = false) :
    (∀ text, [separator].intercalate (splitOutside separator text) = text ∧
      ∀ part ∈ splitOutside separator text, splitOutside separator part = [part]) ∧
    (∀ first, Nesting.outside.after first = .outside → ∀ second,
      splitOutside separator (first ++ separator :: second) =
        splitOutside separator first ++ splitOutside separator second) ∧
    ∀ first : String, Nesting.outside.after first.toList = .outside → ∀ second : String,
      (Path.parse (first ++ "." ++ second)).steps =
        (Path.parse first).steps ++ (Path.parse second).steps := by
  refine ⟨?_, ?_, ?_⟩
  · intro text
    constructor
    · exact intercalate_splitOutside unmarked text
    · intro part member
      exact splitWithin_of_unbroken (unbroken_of_mem_splitOutside unmarked member)
  · intro first ends second
    exact splitWithin_append unmarked ends second
  · intro first ends second
    exact Path.parse_append ends second

theorem unbalanced_texts_parted :
    isMark '.' = false ∧ isMark ',' = false ∧
    Nesting.outside.after "a).tag(',.')".toList = .outside ∧
    [','].intercalate (splitOutside ',' "a),(',.'),b(\"".toList) = "a),(',.'),b(\"".toList ∧
    splitOutside '.' ("a).tag(',.')".toList ++ '.' :: "b(\".".toList) =
      splitOutside '.' "a).tag(',.')".toList ++ splitOutside '.' "b(\".".toList ∧
    (Path.parse ("a).tag(',.')" ++ "." ++ "b(\".")).steps =
      (Path.parse "a).tag(',.')").steps ++ (Path.parse "b(\".").steps := by
  have ends : Nesting.outside.after "a).tag(',.')".toList = .outside := by decide
  rcases splitting_loses_nothing_and_composes (rfl : isMark '.' = false) with
    ⟨_, composes, pathsCompose⟩
  have keeps := (splitting_loses_nothing_and_composes (rfl : isMark ',' = false)).1
  exact ⟨rfl, rfl, ends, (keeps _).1, composes _ ends _, pathsCompose _ ends _⟩

example :
    splitOutside '.' ['a', ')', '.', 'b', '(', '.'] = [['a', ')'], ['b', '(', '.']] := by
  decide

end Text

end Criteria

import Criteria.Proofs.Agreement
import Criteria.Proofs.Relabelling

/-!
Explanations of compositions show those of their operands word for word.

A composition is over a variable of its own, so its operands are moved before they are joined. The
text of a term knows a variable by its name only, and the new variable has the name of the first
operand's: among operands of one name nothing changes. The sum of a count is nested in a way that
depends on the number of operands, but a sum as an operand of a sum needs no parentheses, so what
is shown is a flat list in their order.
-/

namespace Criteria

variable {World : Type}

/-! ## Texts and variables -/

namespace Term

theorem explainAll_eq_map (terms : List (Term World)) : explainAll terms = terms.map explain := by
  induction terms with
  | nil => rfl
  | cons term terms induction => rw [explainAll, induction, List.map_cons]

private theorem isConditional_relabel (change : Relabelling World) (term : Term World) :
    (term.relabel change).isConditional = term.isConditional := by
  cases term <;> rfl

theorem explain_relabel {change : Relabelling World} {term : Term World}
    (kept : ∀ symbol ∈ term.occurrences, (change.symbol symbol).name = symbol.name) :
    (term.relabel change).explain = term.explain := by
  induction term with
  | call target method arguments targetKept argumentsKept =>
      simp only [occurrences, List.mem_append, mem_occurrencesInAll] at kept
      have target_eq := targetKept fun symbol member => kept symbol (.inl member)
      have arguments_eq : arguments.map (explain ∘ relabel change) = arguments.map explain :=
        List.map_congr_left fun argument member => argumentsKept argument member
          fun symbol occurs => kept symbol (.inr ⟨argument, member, occurs⟩)
      simp only [relabel, explain, relabelAll_eq_map, explainAll_eq_map, List.map_map, target_eq,
        arguments_eq]
  | add left right leftKept rightKept =>
      simp only [occurrences, List.mem_append] at kept
      have left_eq := leftKept fun symbol member => kept symbol (.inl member)
      have right_eq := rightKept fun symbol member => kept symbol (.inr member)
      simp only [relabel, explain, grouped, isConditional_relabel, left_eq, right_eq]
  | _ => simp_all [relabel, explain, occurrences]

theorem explain_substitute {old new : Variable} {term : Term World}
    (named : ∀ symbol ∈ term.occurrences, symbol.same old → symbol.name = new.name) :
    (term.substitute old new).explain = term.explain := by
  unfold substitute
  split
  case isTrue => rfl
  case isFalse =>
    rw [rebind_eq_relabel]
    refine explain_relabel fun symbol occurs => ?_
    change (symbol.renamed old new).name = symbol.name
    by_cases own : symbol.same old
    · rw [Variable.renamed_of_same new own, named symbol occurs own]
    · rw [Variable.renamed_of_not_same new own]

theorem explain_count {count : Nat} (few : count < Number.int64Bound) :
    (Term.int (Int64.ofNat count) : Term World).explain = toString count := by
  have digits : Number.integer (count : Int) = Number.natural count := by simp [Number.integer]
  rw [int, explain, Value.text, Value.characters, Number.toInt_ofNat few, digits]
  rfl

end Term

/-! ## Texts of combinations -/

namespace Connective

def phrase : Connective → String → String → String
  | .and, left, right => "(" ++ left ++ ") AND (" ++ right ++ ")"
  | .or, left, right => "(" ++ left ++ ") OR (" ++ right ++ ")"
  | .andNot, left, right => "(" ++ left ++ ") AND (NOT (" ++ right ++ "))"
  | .xor, left, right =>
      "((" ++ left ++ ") AND (NOT (" ++ right ++ "))) OR ((NOT (" ++ left ++ ")) AND (" ++
        right ++ "))"
  | .implies, left, right => "(NOT (" ++ left ++ ")) OR (" ++ right ++ ")"
  | .iff, left, right =>
      "((" ++ left ++ ") AND (" ++ right ++ ")) OR ((NOT (" ++ left ++ ")) AND (NOT (" ++
        right ++ ")))"
  | .nand, left, right => "NOT ((" ++ left ++ ") AND (" ++ right ++ "))"
  | .nor, left, right => "NOT ((" ++ left ++ ") OR (" ++ right ++ "))"

private theorem explain_join (connective : Connective) (left right : Term World) :
    (connective.join left right).explain = connective.phrase left.explain right.explain := by
  rw [← String.toList_inj]
  cases connective <;> simp [join, phrase, Term.explain]

end Connective

namespace Criterion

def NamedBy (naming : Naming) (criterion : Criterion World) : Prop :=
  criterion.bound.NamedBy naming ∧ ∀ symbol ∈ criterion.body.occurrences, symbol.NamedBy naming

section

variable {naming : Naming} {supply after : Supply}

theorem explain_bodyOn {operand : Criterion World} {shared : Variable}
    (named : operand.NamedBy naming) (name : operand.bound.name = shared.name) :
    (operand.predicate.bodyOn shared).explain = operand.explain := by
  refine Term.explain_substitute fun symbol occurs own => ?_
  rw [(named.2 symbol occurs).eq_of_same named.1 own]
  exact name

private theorem explain_combine (connective : Connective) {left right : Criterion World}
    (leftNamed : left.NamedBy naming) (rightNamed : right.NamedBy naming)
    (name : right.bound.name = left.bound.name) :
    (combine connective left right supply).1.explain =
      connective.phrase left.explain right.explain := by
  let shared : Variable := ⟨supply.next, left.bound.name⟩
  have joined : (combine connective left right supply).1.explain =
      (connective.join (left.predicate.bodyOn shared) (right.predicate.bodyOn shared)).explain :=
    rfl
  have leftKept : (left.predicate.bodyOn shared).explain = left.explain :=
    explain_bodyOn leftNamed rfl
  have rightKept : (right.predicate.bodyOn shared).explain = right.explain :=
    explain_bodyOn rightNamed name
  rw [joined, Connective.explain_join, leftKept, rightKept]

private theorem explain_negate {operand : Criterion World} (named : operand.NamedBy naming) :
    (negate operand supply).1.explain = "NOT (" ++ operand.explain ++ ")" := by
  let shared : Variable := ⟨supply.next, operand.bound.name⟩
  have negated : (negate operand supply).1.explain =
      "NOT (" ++ (operand.predicate.bodyOn shared).explain ++ ")" := rfl
  have kept : (operand.predicate.bodyOn shared).explain = operand.explain :=
    explain_bodyOn named rfl
  rw [negated, kept]

end

/-! ## Texts of counts -/

def unitPhrase (text : String) : String :=
  "IF (" ++ text ++ ") THEN 1 ELSE 0"

private theorem explain_unitFor (term : Term World) :
    (unitFor term).explain = unitPhrase term.explain := by
  have one : (Term.int 1 : Term World).explain = "1" :=
    Term.explain_count (by decide : 1 < Number.int64Bound)
  have zero : (Term.int 0 : Term World).explain = "0" :=
    Term.explain_count (by decide : 0 < Number.int64Bound)
  rw [unitFor, Term.explain, one, zero, unitPhrase]
  simp only [String.append_assoc]
  rfl

/-- The term shows the operands below it. As an operand of a sum it does so as a flat list, with
parentheses around each of them, and then it needs none around itself unless it is a single one. -/
structure Lists (sum : Term World) (operands : List (Criterion World)) : Prop where
  nonempty : operands ≠ []
  alone : ∀ operand, operands = [operand] → sum.explain = unitPhrase operand.explain
  compound : 2 ≤ operands.length → sum.isConditional = false
  text : sum.grouped sum.explain =
    " + ".intercalate
      (operands.map fun operand => "(IF (" ++ operand.explain ++ ") THEN 1 ELSE 0)")

private theorem lists_add : Balanced.Appends (@Lists World) Term.add := by
  intro left right first second leftLists rightLists
  have leftSome := List.length_pos_iff.mpr leftLists.nonempty
  have rightSome := List.length_pos_iff.mpr rightLists.nonempty
  refine ⟨List.append_ne_nil_of_left_ne_nil leftLists.nonempty second, ?_, fun _ => rfl, ?_⟩
  · intro operand single
    have length := congrArg List.length single
    rw [List.length_append, List.length_singleton] at length
    omega
  · have flat : (Term.add left right).grouped (Term.add left right).explain =
        left.grouped left.explain ++ " + " ++ right.grouped right.explain := rfl
    rw [flat, leftLists.text, rightLists.text, List.map_append,
      String.intercalate_append_of_ne_nil (by simpa using leftLists.nonempty)
        (by simpa using rightLists.nonempty)]

private theorem lists_unitFor {operand : Criterion World} {term : Term World}
    (kept : term.explain = operand.explain) : Lists (unitFor term) [operand] := by
  have shown : (unitFor term).explain = unitPhrase operand.explain := by
    rw [explain_unitFor, kept]
  refine ⟨List.cons_ne_nil _ _, ?_, fun two => absurd two (by simp), ?_⟩
  · intro other equal
    cases equal
    exact shown
  · have grouped : (unitFor term).grouped (unitFor term).explain =
        "(" ++ unitPhrase operand.explain ++ ")" := by rw [← shown]; rfl
    rw [grouped, List.map_singleton, String.intercalate_singleton, ← String.toList_inj]
    simp [unitPhrase]

theorem firstName_eq {operands : List (Criterion World)} {name : String} (nonempty : operands ≠ [])
    (shared : ∀ operand ∈ operands, operand.bound.name = name) : firstName operands = name := by
  cases operands with
  | nil => exact absurd rfl nonempty
  | cons first rest => exact shared first List.mem_cons_self

private theorem explain_counting {naming : Naming} {supply : Supply}
    {operands : List (Criterion World)}
    {name : String} {quantifier : Quantifier} {counted : Criterion World}
    (named : ∀ operand ∈ operands, operand.NamedBy naming)
    (shared : ∀ operand ∈ operands, operand.bound.name = name)
    (made : (counting quantifier operands supply).1 = .ok counted) :
    ∃ sum, Lists sum operands ∧
      counted.explain =
        sum.explain ++ " " ++ quantifier.comparison.symbol ++ " " ++
          toString quantifier.threshold := by
  have nonempty : operands ≠ [] := by
    rintro rfl
    cases made
  have run : counting quantifier operands supply =
    (.ok counted, (counting quantifier operands supply).2) := Prod.ext made rfl
  rcases counting_of_ok run with ⟨bound, _, _, sum, threshold, joined, exact, body⟩
  rcases Number.eq_ofNat_of_toInt64? exact with ⟨few, rfl⟩
  refine ⟨sum, ?_, ?_⟩
  · refine Balanced.standsFor_join? lists_add ?_ joined
    intro operand member
    refine lists_unitFor (explain_bodyOn (named operand member) ?_)
    rw [shared operand member, ← firstName_eq nonempty shared]
    exact (congrArg Variable.name bound).symm
  · rw [explain, Criterion.body, body, Term.explain, Term.explain_count few]

/-! ## All compositions -/

/-- What an explanation shows of composition, where every number has one name.

To move a term to a variable of the same name does not change its text. So over operands whose
variables share one name, each combination shows the texts of its operands as its phrase says. A
count of several operands shows one flat sum in their order, however the sum is nested, and a count
of a single operand shows it without parentheses around the term. -/
theorem composition_shown_verbatim {naming : Naming} :
    (∀ (term : Term World) (old new : Variable), old.NamedBy naming →
      (∀ symbol ∈ term.occurrences, symbol.NamedBy naming) → old.name = new.name →
      (term.substitute old new).explain = term.explain) ∧
    ∀ (supply : Supply) (operands : List (Criterion World)) (name : String),
      (∀ operand ∈ operands, operand.NamedBy naming) →
      (∀ operand ∈ operands, operand.bound.name = name) →
      (∀ connective, ∀ left ∈ operands, ∀ right ∈ operands,
        (combine connective left right supply).1.explain =
          connective.phrase left.explain right.explain) ∧
      (∀ operand ∈ operands,
        (negate operand supply).1.explain = "NOT (" ++ operand.explain ++ ")") ∧
      ∀ quantifier counted, (counting quantifier operands supply).1 = .ok counted →
        (2 ≤ operands.length → counted.explain =
          " + ".intercalate
              (operands.map fun operand => "(IF (" ++ operand.explain ++ ") THEN 1 ELSE 0)") ++
            " " ++ quantifier.comparison.symbol ++ " " ++ toString quantifier.threshold) ∧
        ∀ operand, operands = [operand] → counted.explain =
          "IF (" ++ operand.explain ++ ") THEN 1 ELSE 0" ++ " " ++
            quantifier.comparison.symbol ++ " " ++ toString quantifier.threshold := by
  constructor
  · intro term old new oldNamed named name
    refine Term.explain_substitute fun symbol occurs own => ?_
    rw [(named symbol occurs).eq_of_same oldNamed own]
    exact name
  · intro supply operands name named shared
    refine ⟨?_, fun operand member => explain_negate (named operand member), ?_⟩
    · intro connective left leftMember right rightMember
      have names := (shared right rightMember).trans (shared left leftMember).symm
      exact explain_combine connective (named left leftMember) (named right rightMember) names
    · intro quantifier counted made
      rcases explain_counting named shared made with ⟨sum, lists, shown⟩
      constructor
      · intro two
        have bare : sum.grouped sum.explain = sum.explain := by
          rw [Term.grouped, lists.compound two, if_neg Bool.false_ne_true]
        rw [shown, ← bare, lists.text]
      · intro operand single
        rw [shown, lists.alone operand single, unitPhrase]

section

open Sample

private theorem flag_named (start : Nat) (name : String) :
    (flag start name).NamedBy fun _ => "x" := by
  refine ⟨rfl, ?_⟩
  intro symbol occurs
  rw [List.mem_singleton.mp (occurs : symbol ∈ [⟨start, "x"⟩])]
  rfl

theorem flags_shown :
    ((flag 0 "a").body.substitute ⟨0, "x"⟩ ⟨9, "x"⟩).explain = "x.a = true" ∧
    (combine .iff (flag 0 "a") (flag 2 "b") ⟨4⟩).1.explain =
      "((x.a = true) AND (x.b = true)) OR ((NOT (x.a = true)) AND (NOT (x.b = true)))" ∧
    oneFlag.explain = "(IF (x.a = true) THEN 1 ELSE 0) + (IF (x.b = true) THEN 1 ELSE 0) = 1" := by
  have named : ∀ operand ∈ [flag 0 "a", flag 2 "b"], operand.NamedBy fun _ => "x" :=
    List.forall_mem_cons.mpr ⟨flag_named 0 "a", List.forall_mem_singleton.mpr (flag_named 2 "b")⟩
  have shared : ∀ operand ∈ [flag 0 "a", flag 2 "b"], operand.bound.name = "x" :=
    List.forall_mem_cons.mpr ⟨rfl, List.forall_mem_singleton.mpr rfl⟩
  rcases @composition_shown_verbatim Gallery fun _ => "x" with ⟨moved, composed⟩
  rcases composed ⟨4⟩ _ "x" named shared with ⟨combined, _, counted⟩
  refine ⟨?_, ?_, ?_⟩
  · exact moved (flag 0 "a").body ⟨0, "x"⟩ ⟨9, "x"⟩ rfl (flag_named 0 "a").2 rfl
  · exact combined .iff _ List.mem_cons_self _ (List.mem_cons_of_mem _ List.mem_cons_self)
  · exact (counted (.exactly 1) oneFlag (by rw [counting_flags])).1 (by decide)

end

end Criterion

end Criteria

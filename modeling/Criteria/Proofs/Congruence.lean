import Criteria.Proofs.AlphaEquivalence
import Criteria.Proofs.Counting
import Mathlib.Data.List.Forall2

/-!
Composition respects equality up to the bound variable.

A closed predicate has one variable. So equality up to the bound variable compares what is left of
two bodies when that variable is blotted out: their silhouettes. To move a predicate to another
variable does not change its silhouette, and the combinators only join, wrap and count what they are
given, so the silhouette of a composition is made of those of its operands, whichever variable it
draws.
-/

namespace Criteria

variable {World : Type}

/-! ## Silhouettes -/

def Relabelling.blot : Relabelling World :=
  { Relabelling.numbers with symbol := fun _ => ⟨0, ""⟩ }

namespace Term

def silhouette (term : Term World) : Term World :=
  term.relabel .blot

private theorem silhouette_outline (term : Term World) :
    term.outline.silhouette = term.silhouette :=
  relabel_relabel .numbers .blot term

theorem outline_eq_relabel_silhouette {bound : Variable} {term : Term World}
    (single : ∀ symbol ∈ term.occurrences, symbol.same bound) :
    term.outline = term.silhouette.relabel (.ofSymbols fun _ => bound.unnamed) := by
  rw [outline, silhouette, relabel_relabel]
  refine relabel_congr (by rfl) (by rfl) ?_
  intro symbol occurs
  exact congrArg (Variable.mk · "") (Variable.same_iff.mp (single symbol occurs))

end Term

namespace Predicate

theorem silhouette_bodyOn (predicate : Predicate World) (shared : Variable) :
    (predicate.bodyOn shared).silhouette = predicate.body.silhouette := by
  by_cases apart : predicate.bound.same shared
  · rw [bodyOn_of_same apart]
  · rw [bodyOn_eq_rebind apart, Term.rebind_eq_relabel]
    exact Term.relabel_relabel _ .blot predicate.body

private theorem Closed.occurrences_bodyOn {predicate : Predicate World} (closed : predicate.Closed)
    (shared : Variable) :
    ∀ symbol ∈ (predicate.bodyOn shared).occurrences, symbol.same shared := by
  intro symbol occurs
  by_cases apart : predicate.bound.same shared
  · rw [bodyOn_of_same apart] at occurs
    exact Variable.same_trans (closed symbol occurs) apart
  · rw [((closed.mem_occurrences_bodyOn apart).mp occurs).1]
    exact shared.same_self

/-- Between closed predicates equality up to the bound variable is equality of silhouettes. -/
theorem Closed.alphaSame_iff_silhouette {left right : Predicate World} (leftClosed : left.Closed)
    (rightClosed : right.Closed) (leftFree : left.body.isFloatFree)
    (rightFree : right.body.isFloatFree) :
    left.alphaSame right ↔ left.body.silhouette = right.body.silhouette := by
  rw [alphaSame_iff_outline leftFree rightFree]
  constructor
  · intro outlines
    rw [← Term.silhouette_outline, outlines, Term.silhouette_outline, silhouette_bodyOn]
  · intro silhouettes
    rw [Term.outline_eq_relabel_silhouette leftClosed, silhouettes,
      Term.outline_eq_relabel_silhouette (rightClosed.occurrences_bodyOn left.bound),
      silhouette_bodyOn]

end Predicate

/-! ## Recipes -/

/-- What a combinator makes of the terms of its operands: something of each, then a join of these,
then something of the join. None of it looks into the terms or brings in a float. -/
structure Recipe (World : Type) where
  prepare : Term World → Term World
  join : Term World → Term World → Term World
  finish : Term World → Term World
  relabel_prepare : ∀ change term, (prepare term).relabel change = prepare (term.relabel change)
  relabel_join : ∀ change left right,
    (join left right).relabel change = join (left.relabel change) (right.relabel change)
  relabel_finish : ∀ change term, (finish term).relabel change = finish (term.relabel change)
  isFloatFree_prepare : ∀ term, (prepare term).isFloatFree = term.isFloatFree
  isFloatFree_join : ∀ left right,
    (join left right).isFloatFree = (left.isFloatFree && right.isFloatFree)
  isFloatFree_finish : ∀ term, (finish term).isFloatFree = term.isFloatFree

namespace Recipe

def ofConnective (connective : Connective) : Recipe World where
  prepare := id
  join := connective.join
  finish := id
  relabel_prepare _ _ := rfl
  relabel_join _ _ _ := by cases connective <;> rfl
  relabel_finish _ _ := rfl
  isFloatFree_prepare _ := rfl
  isFloatFree_join _ _ := by cases connective <;> simp [Connective.join, Term.isFloatFree]
  isFloatFree_finish _ := rfl

def negated (recipe : Recipe World) : Recipe World where
  prepare := recipe.prepare
  join := recipe.join
  finish term := .not (recipe.finish term)
  relabel_prepare := recipe.relabel_prepare
  relabel_join := recipe.relabel_join
  relabel_finish change term := by rw [Term.relabel, recipe.relabel_finish]
  isFloatFree_prepare := recipe.isFloatFree_prepare
  isFloatFree_join := recipe.isFloatFree_join
  isFloatFree_finish term := by rw [Term.isFloatFree, recipe.isFloatFree_finish]

def count (quantifier : Quantifier) (threshold : Int64) : Recipe World where
  prepare := Criterion.unitFor
  join := .add
  finish sum := .compare sum quantifier.comparison (.int threshold)
  relabel_prepare _ _ := rfl
  relabel_join _ _ _ := rfl
  relabel_finish _ _ := rfl
  isFloatFree_prepare _ := by
    simp [Criterion.unitFor, Term.int, Term.isFloatFree, Value.isFloatFree]
  isFloatFree_join _ _ := rfl
  isFloatFree_finish _ := by simp [Term.int, Term.isFloatFree, Value.isFloatFree]

def result? (recipe : Recipe World) (terms : List (Term World)) : Option (Term World) :=
  (Balanced.join? recipe.join (terms.map recipe.prepare)).map recipe.finish

private theorem relabel_result? (recipe : Recipe World) (change : Relabelling World)
    (terms : List (Term World)) :
    recipe.result? (terms.map (·.relabel change)) =
      (recipe.result? terms).map (·.relabel change) := by
  have prepared : (terms.map (·.relabel change)).map recipe.prepare =
      (terms.map recipe.prepare).map (·.relabel change) := by
    simp only [List.map_map]
    exact List.map_congr_left fun term _ => (recipe.relabel_prepare change term).symm
  rw [result?, result?, prepared, Balanced.join?_map (recipe.relabel_join change), Option.map_map,
    Option.map_map]
  congr 1
  funext term
  exact (recipe.relabel_finish change term).symm

private theorem isFloatFree_of_result? {recipe : Recipe World} {terms : List (Term World)}
    {whole : Term World} (made : recipe.result? terms = some whole)
    (free : ∀ term ∈ terms, term.isFloatFree) : whole.isFloatFree := by
  rcases Option.map_eq_some_iff.mp made with ⟨joined, equal, rfl⟩
  have joins : Balanced.Appends (fun (term : Term World) (_ : List (Term World)) =>
      term.isFloatFree) recipe.join := by
    intro left right _ _ leftFree rightFree
    rw [recipe.isFloatFree_join, leftFree, rightFree, Bool.and_self]
  rw [recipe.isFloatFree_finish]
  refine Balanced.standsFor_join? joins ?_ equal
  intro term member
  rw [recipe.isFloatFree_prepare]
  exact free term member

end Recipe

namespace Criterion

def Follows (recipe : Recipe World) (operands : List (Criterion World))
    (result : Criterion World) : Prop :=
  recipe.result? (operands.map (·.predicate.bodyOn result.bound)) = some result.body

namespace Follows

variable {recipe : Recipe World} {operands : List (Criterion World)} {result : Criterion World}

private theorem silhouette (follows : Follows recipe operands result) :
    recipe.result? (operands.map (·.body.silhouette)) = some result.body.silhouette := by
  have moved : operands.map (·.body.silhouette) =
      (operands.map (·.predicate.bodyOn result.bound)).map (·.relabel .blot) := by
    rw [List.map_map]
    exact List.map_congr_left fun operand _ =>
      (operand.predicate.silhouette_bodyOn result.bound).symm
  rw [moved, recipe.relabel_result?, follows]
  rfl

private theorem isFloatFree (follows : Follows recipe operands result)
    (free : ∀ operand ∈ operands, operand.body.isFloatFree) : result.body.isFloatFree := by
  refine Recipe.isFloatFree_of_result? follows ?_
  intro term member
  rcases List.mem_map.mp member with ⟨operand, operandMember, rfl⟩
  rw [Predicate.isFloatFree_bodyOn]
  exact free operand operandMember

end Follows

/-! ## The recipes of the combinators -/

section

variable {supply after : Supply} {operands : List (Criterion World)} {result : Criterion World}

private theorem follows_combine {connective : Connective} {left right : Criterion World}
    (made : combine connective left right supply = (result, after)) :
    Follows (.ofConnective connective) [left, right] result := by
  cases made
  exact congrArg (Option.map id) (Balanced.join?_pair _ _)

theorem follows_negate {operand : Criterion World}
    (made : negate operand supply = (result, after)) :
    Follows (Recipe.ofConnective .or).negated [operand] result := by
  cases made
  rw [Follows, Recipe.result?, List.map_singleton, List.map_singleton, Balanced.join?]
  rfl

private theorem follows_ofChain {combinator : String} {recipe : Recipe World}
    (plain : recipe.prepare = id)
    (made : (do ofChain recipe.finish (← chain combinator recipe.join operands)) supply =
      (.ok result, after)) :
    Follows recipe operands result := by
  rcases ofChain_of_ok made with ⟨predicate, between, chained, equal, _, _⟩
  rcases chain_of_ok chained with ⟨_, _, joined⟩
  rw [Follows, Recipe.result?, plain, List.map_id, bound, body, equal, joined]
  rfl

private theorem follows_counting {quantifier : Quantifier}
    (made : counting quantifier operands supply = (.ok result, after)) :
    ∃ threshold, Number.toInt64? quantifier.threshold = some threshold ∧
      Follows (.count quantifier threshold) operands result := by
  rcases counting_of_ok made with ⟨_, _, _, sum, threshold, joined, exact, equal⟩
  refine ⟨threshold, exact, ?_⟩
  rw [Follows, Recipe.result?, List.map_map, body, equal]
  exact congrArg _ joined

end

/-! ## Refusals of counts -/

def countRefusal? (quantifier : Quantifier) (number : Nat) : Option Refusal :=
  if number = 0 then some (noOperands "counting combinator")
  else if number < quantifier.threshold then
    some (.invalidArgument (quantifier.text ++ " is out of range for " ++ toString number ++
      " specifications"))
  else if (Number.toInt64? quantifier.threshold).isNone then
    some (.invalidArgument ("threshold " ++ toString quantifier.threshold ++ " is too large"))
  else none

private theorem counting_refuses_iff {supply : Supply} {quantifier : Quantifier}
    {operands : List (Criterion World)} {refusal : Refusal} :
    (counting quantifier operands supply).1 = .error refusal ↔
      countRefusal? quantifier operands.length = some refusal := by
  rw [countRefusal?]
  cases operands with
  | nil => rw [counting_nil, if_pos List.length_nil, Except.error.injEq, Option.some.injEq]
  | cons first rest =>
      have nonempty : first :: rest ≠ [] := List.cons_ne_nil first rest
      rw [if_neg (mt List.length_eq_zero_iff.mp nonempty)]
      by_cases out : (first :: rest).length < quantifier.threshold
      · rw [counting_of_lt nonempty out, if_pos out, Except.error.injEq, Option.some.injEq]
      · have joins : ∃ sum, Balanced.join? Term.add (((first :: rest).map
            (·.predicate.bodyOn ⟨supply.next, first.bound.name⟩)).map unitFor) = some sum :=
          Balanced.exists_join?_of_ne_nil (List.cons_ne_nil _ _)
        rcases joins with ⟨sum, joined⟩
        unfold counting
        rw [if_neg out, if_neg (by simp), if_neg out, Fresh.bind_run, rebindAll_run]
        dsimp only
        rw [joined]
        cases Number.toInt64? quantifier.threshold with
        | none =>
            rw [Option.isNone_none, if_pos rfl, Option.some.injEq]
            exact ⟨Except.error.inj, congrArg Except.error⟩
        | some threshold => exact ⟨nofun, nofun⟩

/-! ## Plans -/

/-- What there is to know of a combinator of many: it refuses by the number of the operands alone,
and what it makes follows one recipe. -/
structure Plan
    (combinator : List (Criterion World) → Fresh (Except Refusal (Criterion World))) where
  refusal? : Nat → Option Refusal
  recipe? : Option (Recipe World)
  refuses_iff : ∀ {operands supply refusal}, (combinator operands supply).1 = .error refusal ↔
    refusal? operands.length = some refusal
  follows : ∀ {operands supply result after}, combinator operands supply = (.ok result, after) →
    ∃ recipe, recipe? = some recipe ∧ Follows recipe operands result
  reachable : ∀ {operands supply result after},
    (∀ operand ∈ operands, Criterion.Reachable supply operand) →
    combinator operands supply = (.ok result, after) → result.Reachable after

namespace Plan

def chained (name : String) (recipe : Recipe World) (plain : recipe.prepare = id)
    (reachable : ∀ {operands supply result after},
      (∀ operand ∈ operands, Criterion.Reachable supply operand) →
      (do ofChain recipe.finish (← chain name recipe.join operands)) supply =
        (.ok result, after) → result.Reachable after) :
    Plan fun operands => do ofChain recipe.finish (← chain name recipe.join operands) where
  refusal? number := if number = 0 then some (noOperands name) else none
  recipe? := some recipe
  refuses_iff := by
    intro operands supply refusal
    rw [ofChain_refuses_iff, Option.ite_none_right_eq_some, Option.some.injEq,
      List.length_eq_zero_iff, @eq_comm _ refusal]
  follows made := ⟨recipe, rfl, follows_ofChain plain made⟩
  reachable := reachable

def all : Plan (@Criterion.all World) :=
  chained "all" (.ofConnective .and) rfl .all

def anyOf : Plan (@Criterion.anyOf World) :=
  chained "any_of" (.ofConnective .or) rfl .anyOf

def noneOf : Plan (@Criterion.noneOf World) :=
  chained "none_of" (Recipe.ofConnective .or).negated rfl .noneOf

def counting (quantifier : Quantifier) : Plan (@Criterion.counting World quantifier) where
  refusal? := countRefusal? quantifier
  recipe? := (Number.toInt64? quantifier.threshold).map (.count quantifier)
  refuses_iff := counting_refuses_iff
  follows made := by
    rcases follows_counting made with ⟨threshold, exact, follows⟩
    exact ⟨.count quantifier threshold, by rw [exact, Option.map_some], follows⟩
  reachable := .counting

end Plan

/-! ## Results -/

/-- Both constructions are refused in the same way, or both are made and their predicates are equal
up to the bound variable. -/
inductive Alike : Except Refusal (Criterion World) → Except Refusal (Criterion World) → Prop where
  | refused (refusal : Refusal) : Alike (.error refusal) (.error refusal)
  | made {result other : Criterion World} (alpha : result.predicate.alphaSame other.predicate) :
      Alike (.ok result) (.ok other)

private theorem Alike.of_refuses_iff {left right : Except Refusal (Criterion World)}
    (refuses : ∀ refusal, left = .error refusal ↔ right = .error refusal)
    (made : ∀ result other, left = .ok result → right = .ok other →
      result.predicate.alphaSame other.predicate) : Alike left right := by
  cases left with
  | error refusal =>
      rw [(refuses refusal).mp rfl]
      exact .refused refusal
  | ok result =>
      cases right with
      | error refusal => cases (refuses refusal).mpr rfl
      | ok other => exact .made (made result other rfl rfl)

/-- The operand and its stand-in, each from a run of its own, differ at most in their variables. -/
structure Interchangeable (supply other : Supply) (operand standIn : Criterion World) : Prop where
  reachable : operand.Reachable supply
  standInReachable : standIn.Reachable other
  free : operand.body.isFloatFree
  standInFree : standIn.body.isFloatFree
  alpha : operand.predicate.alphaSame standIn.predicate

namespace Interchangeable

variable {supply other : Supply} {operand standIn : Criterion World}

private theorem silhouette (interchangeable : Interchangeable supply other operand standIn) :
    operand.body.silhouette = standIn.body.silhouette := by
  have closed := interchangeable.reachable.sound.closed
  have standInClosed := interchangeable.standInReachable.sound.closed
  exact (closed.alphaSame_iff_silhouette standInClosed interchangeable.free
    interchangeable.standInFree).mp interchangeable.alpha

private theorem refl (reachable : operand.Reachable supply) (again : operand.Reachable other)
    (free : operand.body.isFloatFree) : Interchangeable supply other operand operand where
  reachable := reachable
  standInReachable := again
  free := free
  standInFree := free
  alpha := (reachable.sound.closed.alphaSame_iff_silhouette again.sound.closed free free).mpr rfl

end Interchangeable

abbrev AllInterchangeable (supply other : Supply) (operands standIns : List (Criterion World)) :
    Prop :=
  List.Forall₂ (Interchangeable supply other) operands standIns

namespace AllInterchangeable

variable {supply other : Supply} {operands standIns : List (Criterion World)}

theorem each_side (interchangeable : AllInterchangeable supply other operands standIns) :
    (∀ operand ∈ operands, operand.Reachable supply ∧ operand.body.isFloatFree) ∧
    (∀ standIn ∈ standIns, standIn.Reachable other ∧ standIn.body.isFloatFree) ∧
    operands.map (·.body.silhouette) = standIns.map (·.body.silhouette) := by
  induction interchangeable with
  | nil => exact ⟨nofun, nofun, rfl⟩
  | cons first _ induction =>
      rcases induction with ⟨operands, standIns, silhouettes⟩
      refine ⟨List.forall_mem_cons.mpr ⟨⟨first.reachable, first.free⟩, operands⟩,
        List.forall_mem_cons.mpr ⟨⟨first.standInReachable, first.standInFree⟩, standIns⟩, ?_⟩
      rw [List.map_cons, List.map_cons, first.silhouette, silhouettes]

theorem alphaSame_of_follows (interchangeable : AllInterchangeable supply other operands standIns)
    {recipe : Recipe World} {result otherResult : Criterion World} {after otherAfter : Supply}
    (reachable : result.Reachable after) (otherReachable : otherResult.Reachable otherAfter)
    (follows : Follows recipe operands result)
    (otherFollows : Follows recipe standIns otherResult) :
    result.predicate.alphaSame otherResult.predicate := by
  rcases interchangeable.each_side with ⟨operandFacts, standInFacts, silhouettes⟩
  have free := follows.isFloatFree fun operand member => (operandFacts operand member).2
  have otherFree := otherFollows.isFloatFree fun standIn member => (standInFacts standIn member).2
  refine (reachable.sound.closed.alphaSame_iff_silhouette otherReachable.sound.closed free
    otherFree).mpr (Option.some.inj ?_)
  calc some result.body.silhouette
      = recipe.result? (operands.map (·.body.silhouette)) := follows.silhouette.symm
    _ = recipe.result? (standIns.map (·.body.silhouette)) := by rw [silhouettes]
    _ = some otherResult.body.silhouette := otherFollows.silhouette

private theorem alike_of_plan (interchangeable : AllInterchangeable supply other operands standIns)
    {combinator : List (Criterion World) → Fresh (Except Refusal (Criterion World))}
    (plan : Plan combinator) :
    Alike (combinator operands supply).1 (combinator standIns other).1 := by
  rcases interchangeable.each_side with ⟨operandFacts, standInFacts, _⟩
  refine .of_refuses_iff ?_ ?_
  · intro refusal
    rw [plan.refuses_iff, plan.refuses_iff, interchangeable.length_eq]
  · intro result otherResult made otherMade
    have ran : combinator operands supply = (.ok result, _) := Prod.ext made rfl
    have otherRan : combinator standIns other = (.ok otherResult, _) := Prod.ext otherMade rfl
    rcases plan.follows ran with ⟨recipe, planned, follows⟩
    rcases plan.follows otherRan with ⟨otherRecipe, otherPlanned, otherFollows⟩
    cases planned.symm.trans otherPlanned
    exact interchangeable.alphaSame_of_follows
      (plan.reachable (fun operand member => (operandFacts operand member).1) ran)
      (plan.reachable (fun standIn member => (standInFacts standIn member).1) otherRan)
      follows otherFollows

end AllInterchangeable

/-! ## Compositions of stand-ins -/

namespace Interchangeable

variable {supply other : Supply}
  {left right operand standInLeft standInRight standIn : Criterion World}

private theorem combined (leftAlike : Interchangeable supply other left standInLeft)
    (rightAlike : Interchangeable supply other right standInRight) (connective : Connective) :
    (combine connective left right supply).1.predicate.alphaSame
      (combine connective standInLeft standInRight other).1.predicate := by
  have both : AllInterchangeable supply other [left, right] [standInLeft, standInRight] :=
    .cons leftAlike (.cons rightAlike .nil)
  exact both.alphaSame_of_follows (.combine leftAlike.reachable rightAlike.reachable rfl)
    (.combine leftAlike.standInReachable rightAlike.standInReachable rfl)
    (follows_combine rfl) (follows_combine rfl)

private theorem negated (alike : Interchangeable supply other operand standIn) :
    (negate operand supply).1.predicate.alphaSame (negate standIn other).1.predicate := by
  have single : AllInterchangeable supply other [operand] [standIn] := .cons alike .nil
  exact single.alphaSame_of_follows (.negate alike.reachable rfl)
    (.negate alike.standInReachable rfl) (follows_negate rfl) (follows_negate rfl)

end Interchangeable

/-- Composition respects equality up to the bound variable.

Stand-ins for the operands give an equal result, although it is made in another run, over a variable
of its own: with every connective, with a negation and with every combinator of many. Where a
combinator of many refuses the operands, it refuses the stand-ins with the same words. Operands
stand in for themselves, so to compose them again, by a method or by its operator, gives an equal
result. -/
theorem composition_respects_alphaSame {supply other : Supply} :
    (∀ left right standInLeft standInRight : Criterion World,
      Interchangeable supply other left standInLeft →
      Interchangeable supply other right standInRight →
      ∀ connective, (combine connective left right supply).1.predicate.alphaSame
        (combine connective standInLeft standInRight other).1.predicate) ∧
    (∀ operand standIn : Criterion World, Interchangeable supply other operand standIn →
      (negate operand supply).1.predicate.alphaSame (negate standIn other).1.predicate) ∧
    (∀ operands standIns : List (Criterion World),
      AllInterchangeable supply other operands standIns →
      Alike (all operands supply).1 (all standIns other).1 ∧
      Alike (anyOf operands supply).1 (anyOf standIns other).1 ∧
      Alike (noneOf operands supply).1 (noneOf standIns other).1 ∧
      ∀ quantifier, Alike (counting quantifier operands supply).1
        (counting quantifier standIns other).1) ∧
    (∀ operands : List (Criterion World),
      (∀ operand ∈ operands, operand.Reachable supply ∧ operand.Reachable other ∧
        operand.body.isFloatFree) →
      AllInterchangeable supply other operands operands) ∧
    (∀ left right : Criterion World, Interchangeable supply other left left →
      Interchangeable supply other right right →
      ((left &&& right : Fresh (Criterion World)) supply).1.predicate.alphaSame
        (combine .and left right other).1.predicate ∧
      ((left ||| right : Fresh (Criterion World)) supply).1.predicate.alphaSame
        (combine .or left right other).1.predicate ∧
      ((left ^^^ right : Fresh (Criterion World)) supply).1.predicate.alphaSame
        (combine .xor left right other).1.predicate ∧
      (left.complement supply).1.predicate.alphaSame (negate left other).1.predicate) := by
  refine ⟨fun _ _ _ _ => Interchangeable.combined, fun _ _ => Interchangeable.negated, ?_, ?_, ?_⟩
  · intro operands standIns alike
    exact ⟨alike.alike_of_plan .all, alike.alike_of_plan .anyOf, alike.alike_of_plan .noneOf,
      fun quantifier => alike.alike_of_plan (.counting quantifier)⟩
  · intro operands facts
    refine List.forall₂_same.mpr ?_
    intro operand member
    rcases facts operand member with ⟨reachable, again, free⟩
    exact .refl reachable again free
  · intro left right leftAlike rightAlike
    exact ⟨leftAlike.combined rightAlike .and, leftAlike.combined rightAlike .or,
      leftAlike.combined rightAlike .xor, leftAlike.negated⟩

section

open Sample

private theorem flag_interchangeable {start again : Nat} {supply other : Supply} (name : String)
    (ahead : start + 2 ≤ supply.next) (otherAhead : again + 2 ≤ other.next) :
    Interchangeable supply other (flag start name) (flag again name) where
  reachable := flag_reachable name ahead
  standInReachable := flag_reachable name otherAhead
  free := rfl
  standInFree := rfl
  alpha := by
    have closed := (flag_reachable name ahead).sound.closed
    have otherClosed := (flag_reachable name otherAhead).sound.closed
    exact (closed.alphaSame_iff_silhouette otherClosed rfl rfl).mpr rfl

def laterFlagPair : List (Criterion Gallery) :=
  [flag 10 "a", flag 12 "b"]

theorem flags_composed_apart :
    (combine .xor (flag 0 "a") (flag 2 "b") ⟨4⟩).1.predicate.alphaSame
      (combine .xor (flag 10 "a") (flag 12 "b") ⟨14⟩).1.predicate ∧
    ∃ counted, (counting (.exactly 1) laterFlagPair ⟨14⟩).1 = .ok counted ∧
      oneFlag.predicate.alphaSame counted.predicate := by
  have first : Interchangeable ⟨4⟩ ⟨14⟩ (flag 0 "a") (flag 10 "a") :=
    flag_interchangeable "a" (by decide) (by decide)
  have second : Interchangeable ⟨4⟩ ⟨14⟩ (flag 2 "b") (flag 12 "b") :=
    flag_interchangeable "b" (by decide) (by decide)
  have respects := @composition_respects_alphaSame Gallery ⟨4⟩ ⟨14⟩
  refine ⟨respects.1 _ _ _ _ first second .xor, ?_⟩
  have pairs : AllInterchangeable ⟨4⟩ ⟨14⟩ flagPair laterFlagPair := .cons first (.cons second .nil)
  have alike := (respects.2.2.1 _ _ pairs).2.2.2 (.exactly 1)
  rw [flagPair, counting_flags] at alike
  rcases made : (counting (.exactly 1) laterFlagPair ⟨14⟩).1 with refusal | counted
  · rw [made] at alike
    cases alike
  · rw [made] at alike
    cases alike with
    | made alpha => exact ⟨counted, rfl, alpha⟩

end

end Criterion

end Criteria

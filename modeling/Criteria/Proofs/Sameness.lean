import Criteria.Proofs.Relabelling
import Criteria.Term.Compilation
import Criteria.Term.Same
import Criteria.Term.Trace

/-!
What structural equality tells apart.

Two terms are compared by their shape, their literals, and the numbers of their variables and opaque
tests. So equal terms have one outline, which is what is left of a term when names and the working
of tests are forgotten. Floats are the exception: they are equal within a tolerance, infinities not
even to themselves. Without floats structural equality is equality of outlines.

The numbers come from one supply, so each of them has one name or one test behind it. A register
says which, and a term can be restored from its outline with the register at hand.
-/

namespace Criteria

/-! ## Values without floats -/

namespace Value

mutual
def isFloatFree : Value → Bool
  | .float _ => false
  | .list items => areFloatFree items
  | _ => true

def areFloatFree : List Value → Bool
  | [] => true
  | item :: items => item.isFloatFree && areFloatFree items
end

mutual
theorem equal_iff_eq : ∀ {left right : Value}, left.isFloatFree → right.isFloatFree →
    (left.equal right ↔ left = right)
  | .list left, right, leftFree, rightFree => by
      cases right with
      | list right => simpa [equal] using equalLists_iff_eq leftFree rightFree
      | _ => simp [equal]
  | .float _, _, leftFree, _ => nomatch leftFree
  | .none, right, _, _ => by cases right <;> simp [equal]
  | .bool left, right, _, _ => by cases right <;> simp [equal]
  | .int left, right, _, rightFree => by cases right <;> simp_all [equal, isFloatFree]
  | .string left, right, _, _ => by cases right <;> simp [equal]
  | .date left, right, _, _ => by cases right <;> simp [equal]
  | .datetime left, right, _, _ => by cases right <;> simp [equal]
  | .record left, right, _, _ => by cases right <;> simp [equal]

theorem equalLists_iff_eq : ∀ {left right : List Value}, areFloatFree left → areFloatFree right →
    (equalLists left right ↔ left = right)
  | [], right, _, _ => by cases right <;> simp [equalLists]
  | _ :: _, [], _, _ => by simp [equalLists]
  | left :: lefts, right :: rights, leftFree, rightFree => by
      have lefts_free := Bool.and_eq_true_iff.mp leftFree
      have rights_free := Bool.and_eq_true_iff.mp rightFree
      have first := equal_iff_eq lefts_free.1 rights_free.1
      have rest := equalLists_iff_eq lefts_free.2 rights_free.2
      simp [equalLists, first, rest]
end

end Value

variable {World : Type}

/-! ## Outlines -/

def Variable.unnamed (symbol : Variable) : Variable :=
  ⟨symbol.number, ""⟩

namespace Relabelling

/-- What structural equality sees of variables and tests: their numbers. -/
def numbers : Relabelling World where
  symbol := Variable.unnamed
  valueTest check := ⟨check.identity, fun _ => pure false⟩
  entityTest check := ⟨check.identity, fun _ => pure false⟩

@[simp] theorem symbol_numbers (symbol : Variable) :
    (numbers : Relabelling World).symbol symbol = symbol.unnamed :=
  rfl

@[simp] theorem valueTest_numbers (check : ValueTest World) :
    numbers.valueTest check = ⟨check.identity, fun _ => pure false⟩ :=
  rfl

@[simp] theorem entityTest_numbers (check : EntityTest World) :
    numbers.entityTest check = ⟨check.identity, fun _ => pure false⟩ :=
  rfl

end Relabelling

namespace Term

mutual
def isFloatFree : Term World → Bool
  | .var _ => true
  | .literal value => value.isFloatFree
  | .member target _ => target.isFloatFree
  | .call target _ arguments => target.isFloatFree && areFloatFree arguments
  | .compare left _ right => left.isFloatFree && right.isFloatFree
  | .test subject _ operand _ => subject.isFloatFree && operand.all Value.isFloatFree
  | .custom _ _ _ => true
  | .and left right => left.isFloatFree && right.isFloatFree
  | .or left right => left.isFloatFree && right.isFloatFree
  | .not operand => operand.isFloatFree
  | .conditional condition whenTrue whenFalse =>
      condition.isFloatFree && whenTrue.isFloatFree && whenFalse.isFloatFree
  | .add left right => left.isFloatFree && right.isFloatFree

def areFloatFree : List (Term World) → Bool
  | [] => true
  | term :: terms => term.isFloatFree && areFloatFree terms
end

theorem areFloatFree_eq_all (terms : List (Term World)) :
    areFloatFree terms = terms.all isFloatFree := by
  induction terms with
  | nil => rfl
  | cons term terms induction => rw [areFloatFree, induction, List.all_cons]

theorem isFloatFree_relabel (change : Relabelling World) (term : Term World) :
    (term.relabel change).isFloatFree = term.isFloatFree := by
  induction term with
  | call target method arguments targetEqual argumentsEqual =>
      have all : (arguments.map (relabel change)).all isFloatFree =
          arguments.all isFloatFree := by
        rw [List.all_map, Bool.eq_iff_iff, List.all_eq_true, List.all_eq_true]
        exact forall₂_congr fun argument member => by
          rw [Function.comp, argumentsEqual argument member]
      simp only [relabel, isFloatFree, relabelAll_eq_map, areFloatFree_eq_all, targetEqual, all]
  | _ => simp_all [relabel, isFloatFree]

def outline (term : Term World) : Term World :=
  term.relabel .numbers

private theorem sameLiteral_iff_eq {left right : Value} (leftFree : left.isFloatFree)
    (rightFree : right.isFloatFree) : sameLiteral left right ↔ left = right := by
  rw [sameLiteral, Bool.and_eq_true, Value.equal_iff_eq leftFree rightFree]
  constructor
  · exact And.left
  · rintro rfl
    exact ⟨rfl, beq_self_eq_true left.kind⟩

private theorem sameOperand_iff_eq {left right : Option Value}
    (leftFree : left.all Value.isFloatFree)
    (rightFree : right.all Value.isFloatFree) : sameOperand left right ↔ left = right := by
  cases left with
  | none => cases right <;> simp [sameOperand]
  | some left =>
      cases right with
      | none => simp [sameOperand]
      | some right => simp [sameOperand, Value.equal_iff_eq leftFree rightFree]

private theorem sameLists_iff {form : Term World → Term World} {lefts rights : List (Term World)}
    (decides : ∀ left ∈ lefts, ∀ right ∈ rights, left.same right ↔ form left = form right) :
    sameLists lefts rights ↔ lefts.map form = rights.map form := by
  induction lefts generalizing rights with
  | nil => cases rights <;> simp [sameLists]
  | cons left lefts induction =>
      cases rights with
      | nil => simp [sameLists]
      | cons right rights =>
          have first := decides left List.mem_cons_self right List.mem_cons_self
          have rest := induction fun left leftMember right rightMember =>
            decides left (List.mem_cons_of_mem _ leftMember) right
              (List.mem_cons_of_mem _ rightMember)
          simp [sameLists, first, rest]

theorem same_iff_outline {term other : Term World} (free : term.isFloatFree)
    (otherFree : other.isFloatFree) : term.same other ↔ term.outline = other.outline := by
  unfold outline
  induction term generalizing other with
  | var symbol => cases other <;> simp [same, relabel, Variable.same, Variable.unnamed]
  | literal value =>
      cases other with
      | literal found => simp [same, relabel, sameLiteral_iff_eq free otherFree]
      | _ => simp [same, relabel]
  | member target name targetSame =>
      cases other with
      | member target' name' =>
          simp only [isFloatFree] at free otherFree
          simp [same, relabel, targetSame free otherFree, and_comm]
      | _ => simp [same, relabel]
  | call target method arguments targetSame argumentsSame =>
      cases other with
      | call target' method' arguments' =>
          simp only [isFloatFree, areFloatFree_eq_all, Bool.and_eq_true, List.all_eq_true]
            at free otherFree
          have arguments_iff : sameLists arguments arguments' ↔ _ :=
            sameLists_iff fun argument member argument' member' =>
              argumentsSame argument member (free.2 argument member) (otherFree.2 argument' member')
          simp [same, relabel, relabelAll_eq_map, targetSame free.1 otherFree.1, arguments_iff,
            and_assoc, and_left_comm]
      | _ => simp [same, relabel]
  | compare left comparison right leftSame rightSame =>
      cases other with
      | compare left' comparison' right' =>
          simp only [isFloatFree, Bool.and_eq_true] at free otherFree
          simp [same, relabel, leftSame free.1 otherFree.1, rightSame free.2 otherFree.2,
            and_assoc, and_left_comm]
      | _ => simp [same, relabel]
  | test subject operator operand check subjectSame =>
      cases other with
      | test subject' operator' operand' check' =>
          simp only [isFloatFree, Bool.and_eq_true] at free otherFree
          simp [same, relabel, subjectSame free.1 otherFree.1,
            sameOperand_iff_eq free.2 otherFree.2, and_assoc, and_comm, and_left_comm]
      | _ => simp [same, relabel]
  | custom symbol label check =>
      cases other <;>
        simp [same, relabel, Variable.same, Variable.unnamed, and_assoc]
  | and left right leftSame rightSame =>
      cases other with
      | and left' right' =>
          simp only [isFloatFree, Bool.and_eq_true] at free otherFree
          simp [same, relabel, leftSame free.1 otherFree.1, rightSame free.2 otherFree.2]
      | _ => simp [same, relabel]
  | or left right leftSame rightSame =>
      cases other with
      | or left' right' =>
          simp only [isFloatFree, Bool.and_eq_true] at free otherFree
          simp [same, relabel, leftSame free.1 otherFree.1, rightSame free.2 otherFree.2]
      | _ => simp [same, relabel]
  | not operand operandSame =>
      cases other with
      | not operand' =>
          simp only [isFloatFree] at free otherFree
          simp [same, relabel, operandSame free otherFree]
      | _ => simp [same, relabel]
  | conditional condition whenTrue whenFalse conditionSame trueSame falseSame =>
      cases other with
      | conditional condition' whenTrue' whenFalse' =>
          simp only [isFloatFree, Bool.and_eq_true] at free otherFree
          simp [same, relabel, conditionSame free.1.1 otherFree.1.1,
            trueSame free.1.2 otherFree.1.2, falseSame free.2 otherFree.2, and_assoc]
      | _ => simp [same, relabel]
  | add left right leftSame rightSame =>
      cases other with
      | add left' right' =>
          simp only [isFloatFree, Bool.and_eq_true] at free otherFree
          simp [same, relabel, leftSame free.1 otherFree.1, rightSame free.2 otherFree.2]
      | _ => simp [same, relabel]

end Term

/-! ## Registers -/

/-- What stands behind the numbers: the name of each variable and what each opaque test does. -/
structure Register (World : Type) where
  name : Naming
  valueTest : Nat → Value → Probe World Bool
  entityTest : Nat → Record → Probe World Bool

def Register.entries (register : Register World) : Relabelling World where
  symbol symbol := ⟨symbol.number, register.name symbol.number⟩
  valueTest check := ⟨check.identity, register.valueTest check.identity⟩
  entityTest check := ⟨check.identity, register.entityTest check.identity⟩

namespace Term

/-- The variables and tests of the term are those of the register: to look them up changes
nothing. -/
def ListedIn (register : Register World) (term : Term World) : Prop :=
  term.relabel register.entries = term

variable {register : Register World} {left right : Term World}

private theorem ListedIn.restore (listed : left.ListedIn register) :
    left.outline.relabel register.entries = left :=
  (relabel_relabel _ _ left).trans listed

theorem eq_of_same (leftFree : left.isFloatFree) (rightFree : right.isFloatFree)
    (leftListed : left.ListedIn register) (rightListed : right.ListedIn register)
    (same : left.same right) : left = right := by
  have outlines := (same_iff_outline leftFree rightFree).mp same
  rw [← leftListed.restore, ← rightListed.restore, outlines]

abbrev FloatFree (World : Type) := { term : Term World // term.isFloatFree }

private theorem same_equivalence : Equivalence fun left right : FloatFree World =>
    left.val.same right.val where
  refl term := (same_iff_outline term.property term.property).mpr rfl
  symm {left right} same := by
    rw [same_iff_outline left.property right.property] at same
    exact (same_iff_outline right.property left.property).mpr same.symm
  trans {first second third} left right := by
    rw [same_iff_outline first.property second.property] at left
    rw [same_iff_outline second.property third.property] at right
    exact (same_iff_outline first.property third.property).mpr (left.trans right)

/-- Structural equality of terms without floats is an equivalence, and nothing that can be observed
of two equal terms of one register tells them apart: neither size, free variables and text, nor
evaluation, tracing and compilation, whichever variable is bound and whatever the entity is. -/
theorem same_unobservable :
    (Equivalence fun left right : FloatFree World => left.val.same right.val) ∧
    ∀ (register : Register World) (left right : FloatFree World),
      left.val.ListedIn register → right.val.ListedIn register → left.val.same right.val →
      left.val.size = right.val.size ∧
      left.val.freeVariables = right.val.freeVariables ∧
      left.val.explain = right.val.explain ∧
      ∀ [Records World] (bound : Variable) (entity : Record),
        left.val.holds ⟨bound, entity⟩ = right.val.holds ⟨bound, entity⟩ ∧
        left.val.value ⟨bound, entity⟩ = right.val.value ⟨bound, entity⟩ ∧
        (∀ mode, left.val.trace ⟨bound, entity⟩ mode = right.val.trace ⟨bound, entity⟩ mode) ∧
        (left.val.compile bound).condition entity = (right.val.compile bound).condition entity ∧
        (left.val.compile bound).value entity = (right.val.compile bound).value entity := by
  refine ⟨same_equivalence, ?_⟩
  intro register left right leftListed rightListed same
  have equal := eq_of_same left.property right.property leftListed rightListed same
  rw [equal]
  exact ⟨rfl, rfl, rfl, fun _ _ => ⟨rfl, rfl, fun _ => rfl, rfl, rfl⟩⟩

section

open Sample

def checkedVip : Term Gallery :=
  .and (.test (.member (.var ⟨0, "x"⟩) "marks") "is" (some (.list [.int 1, .none]))
    ⟨4, fun _ => pure true⟩) vipOrTagged

def checkedVipAgain : Term Gallery :=
  (checkedVip.substitute ⟨0, "x"⟩ ⟨2, "z"⟩).substitute ⟨2, "z"⟩ ⟨0, "x"⟩

def checkedVipRegister : Register Gallery where
  name number := ["x", "y"].getD number ""
  valueTest _ _ := pure true
  entityTest _ _ := pure true

theorem checkedVip_unobservable :
    checkedVip.same checkedVipAgain ∧ checkedVip.explain = checkedVipAgain.explain ∧
      checkedVip.holds ⟨⟨0, "x"⟩, ⟨0⟩⟩ = checkedVipAgain.holds ⟨⟨0, "x"⟩, ⟨0⟩⟩ := by
  have same : checkedVip.same checkedVipAgain := by decide
  have laws := (@same_unobservable Gallery).2 checkedVipRegister ⟨checkedVip, by decide⟩
    ⟨checkedVipAgain, by decide⟩ rfl rfl same
  exact ⟨same, laws.2.2.1, (laws.2.2.2 ⟨0, "x"⟩ ⟨0⟩).1⟩

/-- An infinite float is not even the same as itself. -/
example : ¬ (Term.literal (.float (1 / 0)) : Term Gallery).same (.literal (.float (1 / 0))) := by
  decide +kernel

end

end Term

end Criteria

import Criteria.Probe

/-!
Terms: the immutable trees that conditions are made of.

Some terms stand for values, such as a chain of member reads that starts at the variable; others
stand for conditions. Any term may be written in any position. Whether it makes sense there is
found out when it is evaluated.
-/

namespace Criteria

inductive Comparison where
  | eq
  | ne
  | lt
  | le
  | gt
  | ge
deriving DecidableEq

namespace Comparison

def symbol : Comparison → String
  | .eq => "="
  | .ne => "!="
  | .lt => "<"
  | .le => "<="
  | .gt => ">"
  | .ge => ">="

def inspect : Comparison → String
  | .eq => "Eq"
  | .ne => "Ne"
  | .lt => "Lt"
  | .le => "Le"
  | .gt => "Gt"
  | .ge => "Ge"

end Comparison

/-! Opaque tests cannot be compared by what they do, so each carries an identity. -/

structure ValueTest (World : Type) where
  identity : Nat
  run : Value → Probe World Bool

structure EntityTest (World : Type) where
  identity : Nat
  run : Record → Probe World Bool

/-- A term over records of a world. The operator and the operand of a `test` only describe it. -/
inductive Term (World : Type) where
  | var (symbol : Variable)
  | literal (value : Value)
  | member (target : Term World) (name : String)
  | call (target : Term World) (method : String) (arguments : List (Term World))
  | compare (left : Term World) (comparison : Comparison) (right : Term World)
  | test (subject : Term World) (operator : String) (operand : Option Value)
      (check : ValueTest World)
  | custom (symbol : Variable) (label : String) (check : EntityTest World)
  | and (left right : Term World)
  | or (left right : Term World)
  | not (operand : Term World)
  | conditional (condition whenTrue whenFalse : Term World)
  | add (left right : Term World)

namespace Term

variable {World : Type}

def bool (value : Bool) : Term World :=
  .literal (.bool value)

def int (value : Int64) : Term World :=
  .literal (.int value)

def symbol? : Term World → Option Variable
  | .var symbol => some symbol
  | _ => none

theorem eq_var_of_symbol? {term : Term World} {symbol : Variable}
    (found : term.symbol? = some symbol) : term = .var symbol := by
  cases term <;> cases found
  rfl

def isConditional : Term World → Bool
  | .conditional _ _ _ => true
  | _ => false

def children : Term World → List (Term World)
  | .var _ => []
  | .literal _ => []
  | .member target _ => [target]
  | .call target _ arguments => target :: arguments
  | .compare left _ right => [left, right]
  | .test subject _ _ _ => [subject]
  | .custom _ _ _ => []
  | .and left right => [left, right]
  | .or left right => [left, right]
  | .not operand => [operand]
  | .conditional condition whenTrue whenFalse => [condition, whenTrue, whenFalse]
  | .add left right => [left, right]

mutual
def size : Term World → Nat
  | .var _ => 1
  | .literal _ => 1
  | .member target _ => 1 + target.size
  | .call target _ arguments => 1 + target.size + sizeOfAll arguments
  | .compare left _ right => 1 + left.size + right.size
  | .test subject _ _ _ => 1 + subject.size
  | .custom _ _ _ => 1
  | .and left right => 1 + left.size + right.size
  | .or left right => 1 + left.size + right.size
  | .not operand => 1 + operand.size
  | .conditional condition whenTrue whenFalse =>
      1 + condition.size + whenTrue.size + whenFalse.size
  | .add left right => 1 + left.size + right.size

def sizeOfAll : List (Term World) → Nat
  | [] => 0
  | term :: terms => term.size + sizeOfAll terms
end

/-! ## Variables

Every occurrence counts, also the one inside a `custom` leaf, which is no term of its own. -/

mutual
def occurrences : Term World → List Variable
  | .var symbol => [symbol]
  | .literal _ => []
  | .member target _ => target.occurrences
  | .call target _ arguments => target.occurrences ++ occurrencesInAll arguments
  | .compare left _ right => left.occurrences ++ right.occurrences
  | .test subject _ _ _ => subject.occurrences
  | .custom symbol _ _ => [symbol]
  | .and left right => left.occurrences ++ right.occurrences
  | .or left right => left.occurrences ++ right.occurrences
  | .not operand => operand.occurrences
  | .conditional condition whenTrue whenFalse =>
      condition.occurrences ++ whenTrue.occurrences ++ whenFalse.occurrences
  | .add left right => left.occurrences ++ right.occurrences

def occurrencesInAll : List (Term World) → List Variable
  | [] => []
  | term :: terms => term.occurrences ++ occurrencesInAll terms
end

def freeVariables (term : Term World) : List Variable :=
  Variable.sorted term.occurrences

mutual
def mentions (symbol : Variable) : Term World → Bool
  | .var found => found.same symbol
  | .literal _ => false
  | .member target _ => target.mentions symbol
  | .call target _ arguments => target.mentions symbol || anyMentions symbol arguments
  | .compare left _ right => left.mentions symbol || right.mentions symbol
  | .test subject _ _ _ => subject.mentions symbol
  | .custom found _ _ => found.same symbol
  | .and left right => left.mentions symbol || right.mentions symbol
  | .or left right => left.mentions symbol || right.mentions symbol
  | .not operand => operand.mentions symbol
  | .conditional condition whenTrue whenFalse =>
      condition.mentions symbol || whenTrue.mentions symbol || whenFalse.mentions symbol
  | .add left right => left.mentions symbol || right.mentions symbol

def anyMentions (symbol : Variable) : List (Term World) → Bool
  | [] => false
  | term :: terms => term.mentions symbol || anyMentions symbol terms
end

/-! ## Induction -/

/-- Terms are nested through the arguments of calls, which come as a family of hypotheses. -/
@[elab_as_elim, induction_eliminator]
theorem induction {motive : Term World → Prop}
    (var : ∀ symbol, motive (.var symbol))
    (literal : ∀ value, motive (.literal value))
    (member : ∀ target name, motive target → motive (.member target name))
    (call : ∀ target method arguments, motive target →
      (∀ argument ∈ arguments, motive argument) → motive (.call target method arguments))
    (compare : ∀ left comparison right, motive left → motive right →
      motive (.compare left comparison right))
    (test : ∀ subject operator operand check, motive subject →
      motive (.test subject operator operand check))
    (custom : ∀ symbol label check, motive (.custom symbol label check))
    (and : ∀ left right, motive left → motive right → motive (.and left right))
    (or : ∀ left right, motive left → motive right → motive (.or left right))
    (not : ∀ operand, motive operand → motive (.not operand))
    (conditional : ∀ condition whenTrue whenFalse, motive condition → motive whenTrue →
      motive whenFalse → motive (.conditional condition whenTrue whenFalse))
    (add : ∀ left right, motive left → motive right → motive (.add left right))
    (term : Term World) : motive term := by
  let rec walk : ∀ term, motive term
    | .var symbol => var symbol
    | .literal value => literal value
    | .member target name => member target name (walk target)
    | .call target method arguments =>
        call target method arguments (walk target) fun argument _ => walk argument
    | .compare left comparison right => compare left comparison right (walk left) (walk right)
    | .test subject operator operand check => test subject operator operand check (walk subject)
    | .custom symbol label check => custom symbol label check
    | .and left right => and left right (walk left) (walk right)
    | .or left right => or left right (walk left) (walk right)
    | .not operand => not operand (walk operand)
    | .conditional condition whenTrue whenFalse =>
        conditional condition whenTrue whenFalse (walk condition) (walk whenTrue)
          (walk whenFalse)
    | .add left right => add left right (walk left) (walk right)
  exact walk term

end Term

end Criteria

/-!
Variables and the supply that keeps them apart.

A variable stands for the entity under test. Its number is its identity and its name only its
appearance. Conditions that are built independently never share a variable, because every variable
takes its number from one running supply. Opaque tests, criteria and closures take their
identities from the same supply. It stands for a counter of 64 bits from which fewer than 2 ^ 64
numbers are drawn, so that none comes twice.
-/

namespace Criteria

structure Variable where
  number : Nat
  name : String

namespace Variable

def same (left right : Variable) : Bool :=
  left.number == right.number

theorem same_iff {left right : Variable} : left.same right ↔ left.number = right.number := by
  simp [same]

@[simp] theorem same_self (symbol : Variable) : symbol.same symbol := by
  simp [same]

theorem same_trans {first second third : Variable} (left : first.same second)
    (right : second.same third) : first.same third :=
  same_iff.mpr ((same_iff.mp left).trans (same_iff.mp right))

theorem same_symm {left right : Variable} (same : left.same right) : right.same left :=
  same_iff.mpr (same_iff.mp same).symm

/-- The name with the number, for messages that must tell variables of one name apart. -/
def label (symbol : Variable) : String :=
  symbol.name ++ "#" ++ toString symbol.number

def order (left right : Variable) : Ordering :=
  compare left.number right.number

/-- A list in ascending order without repetitions. Of variables with one number the first stays. -/
def insert (symbol : Variable) : List Variable → List Variable
  | [] => [symbol]
  | head :: tail =>
      if symbol.number < head.number then symbol :: head :: tail
      else if symbol.same head then head :: tail
      else head :: insert symbol tail

def sorted (symbols : List Variable) : List Variable :=
  symbols.foldl (fun collected symbol => insert symbol collected) []

end Variable

structure Supply where
  next : Nat

abbrev Fresh := StateM Supply

namespace Fresh

def identity : Fresh Nat :=
  fun supply => (supply.next, ⟨supply.next + 1⟩)

def symbol (name : String) : Fresh Variable :=
  fun supply => (⟨supply.next, name⟩, ⟨supply.next + 1⟩)

theorem bind_run {Answer Next : Type} (first : Fresh Answer) (next : Answer → Fresh Next)
    (supply : Supply) : (first >>= next) supply = next (first supply).1 (first supply).2 :=
  rfl

def defaultName : String := "x"

end Fresh

end Criteria

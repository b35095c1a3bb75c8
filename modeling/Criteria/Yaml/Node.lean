import Criteria.Yaml.Token
import Std.Data.HashMap

/-!
The nodes of a YAML document. A plain scalar may stand for something else than text; what it stands
for is up to the reader of the document.

A node may be given a name, by which later places stand for the same node, even places inside of it.
Names have numbers: a new one comes after all names so far, and so does one that is given again,
although it is not counted twice. Of several nodes with one number the last one is meant.
-/

namespace Criteria.Yaml

inductive Node where
  | scalar (style : ScalarStyle) (tag : Option Tag) (text : String)
  | sequence (items : List Node)
  | mapping (entries : List (Node × Node))
  | alias (number : Nat)

namespace Node

def empty : Node := .scalar .plain none ""

end Node

/-! Nodes with names are told apart by their place in the order of such nodes; there were `count` so
far. `bearers` tells for each number which of them it means. -/

structure Names where
  numbers : Std.HashMap String Nat
  bearers : Std.HashMap Nat Nat
  count : Nat
  nodes : Std.HashMap Nat Node

namespace Names

def none : Names := ⟨∅, ∅, 0, ∅⟩

def give (names : Names) (name : String) : Names :=
  { names with
    bearers := names.bearers.insert names.numbers.size names.count
    numbers := names.numbers.insert name names.numbers.size
    count := names.count + 1 }

def settle (names : Names) (place : Option Nat) (node : Node) : Names :=
  match place with
  | some place => { names with nodes := names.nodes.insert place node }
  | .none => names

def node? (names : Names) (number : Nat) : Option Node :=
  names.bearers[number]?.bind (names.nodes[·]?)

end Names

structure Document where
  root : Node
  names : Names

/-- The node itself, or the one that it stands for. -/
def Document.resolve (document : Document) : Node → Node
  | .alias number => (document.names.node? number).getD .empty
  | node => node

end Criteria.Yaml

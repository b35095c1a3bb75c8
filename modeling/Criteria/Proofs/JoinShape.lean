import Criteria.Proofs.Balanced
import Mathlib.Data.Nat.Log

/-!
The shape of pairwise joins.

Every pass leaves half of the items, rounded up, so the number of passes is the logarithm of the
length, rounded up. An item without a partner skips a pass, and so it may come to lie under fewer
joins than the others; the first item always has a partner. That is the invariant here: after a
number of passes no item lies under more joins than that, and the first one under exactly as many.
-/

namespace Criteria

namespace Balanced

/-! ## Trees of joins -/

inductive JoinTree (Item : Type) where
  | leaf (item : Item)
  | node (left right : JoinTree Item)

namespace JoinTree

variable {Item : Type}

def fold (join : Item → Item → Item) : JoinTree Item → Item
  | .leaf item => item
  | .node left right => join (left.fold join) (right.fold join)

/-- The items from left to right, each with the number of joins that it lies under. -/
def layout : JoinTree Item → List (Item × Nat)
  | .leaf item => [(item, 0)]
  | .node left right => (left.layout ++ right.layout).map fun place => (place.1, place.2 + 1)

def items (tree : JoinTree Item) : List Item :=
  tree.layout.map Prod.fst

def Within (tree : JoinTree Item) (height : Nat) : Prop :=
  ∀ place ∈ tree.layout, place.2 ≤ height

def Starts (tree : JoinTree Item) (height : Nat) : Prop :=
  tree.layout.head?.map Prod.snd = some height

private theorem items_node (left right : JoinTree Item) :
    (node left right).items = left.items ++ right.items := by
  simp only [items, layout, List.map_append, List.map_map, Function.comp_def]

private theorem appends_items :
    Appends (fun (tree : JoinTree Item) (segment : List Item) => tree.items = segment)
      JoinTree.node := by
  intro left right first second leftItems rightItems
  rw [items_node, leftItems, rightItems]

theorem join?_eq_fold {items : List Item} {tree : JoinTree Item}
    (joined : join? node (items.map leaf) = some tree) (join : Item → Item → Item) :
    join? join items = some (tree.fold join) := by
  have leaves : (items.map leaf).map (fold join) = items := by
    rw [List.map_map]
    exact List.map_id items
  rw [← leaves, join?_map fun left right => (rfl : (node left right).fold join = _), joined,
    Option.map_some]

private theorem Within.node {left right : JoinTree Item} {height : Nat}
    (leftWithin : left.Within height)
    (rightWithin : right.Within height) : (node left right).Within (height + 1) := by
  intro place member
  rcases List.mem_map.mp member with ⟨below, belowMember, rfl⟩
  rcases List.mem_append.mp belowMember with inLeft | inRight
  · exact Nat.succ_le_succ (leftWithin below inLeft)
  · exact Nat.succ_le_succ (rightWithin below inRight)

private theorem Starts.node {left : JoinTree Item} {height : Nat} (starts : left.Starts height)
    (right : JoinTree Item) : (JoinTree.node left right).Starts (height + 1) := by
  unfold Starts at starts ⊢
  rcases Option.map_eq_some_iff.mp starts with ⟨first, head, equal⟩
  rw [layout, List.head?_map, List.head?_append, head, Option.some_or, Option.map_some,
    Option.map_some, equal]

end JoinTree

/-! ## Passes -/

section

variable {Item : Type}

/-- What is true of the trees after so many passes. -/
structure Passed (passes : Nat) (trees : List (JoinTree Item)) : Prop where
  within : ∀ tree ∈ trees, tree.Within passes
  starts : ∀ first ∈ trees.head?, first.Starts passes

private theorem passed_leaves (items : List Item) : Passed 0 (items.map JoinTree.leaf) where
  within := by
    intro tree member
    rcases List.mem_map.mp member with ⟨item, _, rfl⟩
    intro place placed
    rw [List.mem_singleton.mp placed]
  starts := by
    intro first head
    rw [List.head?_map] at head
    rcases Option.map_eq_some_iff.mp head with ⟨item, _, rfl⟩
    rfl

theorem within_pairUp {height : Nat} {trees : List (JoinTree Item)}
    (within : ∀ tree ∈ trees, tree.Within height) :
    ∀ tree ∈ pairUp JoinTree.node trees, tree.Within (height + 1) := by
  fun_induction pairUp JoinTree.node trees with
  | case1 first second rest induction =>
      simp only [List.forall_mem_cons] at within ⊢
      exact ⟨within.1.node within.2.1, induction within.2.2⟩
  | case2 short =>
      intro tree member place placed
      exact Nat.le_succ_of_le (within tree member place placed)

theorem Passed.pairUp {passes : Nat} {first second : JoinTree Item} {rest : List (JoinTree Item)}
    (passed : Passed passes (first :: second :: rest)) :
    Passed (passes + 1) (pairUp JoinTree.node (first :: second :: rest)) where
  within := within_pairUp passed.within
  starts := by
    intro joined head
    cases head
    exact (passed.starts first rfl).node second

theorem clog_length (join : Item → Item → Item) (first second : Item) (rest : List Item) :
    Nat.clog 2 (first :: second :: rest).length =
      Nat.clog 2 (Balanced.pairUp join (first :: second :: rest)).length + 1 := by
  have two : 2 ≤ (first :: second :: rest).length := by simp
  rw [length_pairUp, Nat.clog_of_two_le (by decide) two]
  rfl

private theorem passed_join? {passes : Nat} {trees : List (JoinTree Item)} {whole : JoinTree Item}
    (passed : Passed passes trees) (joined : join? JoinTree.node trees = some whole) :
    Passed (passes + Nat.clog 2 trees.length) [whole] := by
  fun_induction join? JoinTree.node trees generalizing passes with
  | case1 => cases joined
  | case2 last =>
      cases joined
      exact passed
  | case3 first second rest induction =>
      have after := induction passed.pairUp joined
      rwa [clog_length JoinTree.node, Nat.add_comm (Nat.clog 2 _) 1, ← Nat.add_assoc]

theorem passes_end {join : Item → Item → Item} {items : List Item} (nonempty : items ≠ []) :
    (∀ passes < Nat.clog 2 items.length, 1 < ((pairUp join)^[passes] items).length) ∧
      ∃ whole, (pairUp join)^[Nat.clog 2 items.length] items = [whole] ∧
        join? join items = some whole := by
  fun_induction join? join items with
  | case1 => exact absurd rfl nonempty
  | case2 last =>
      refine ⟨?_, last, rfl, rfl⟩
      intro passes before
      rw [List.length_singleton, Nat.clog_one_right] at before
      cases before
  | case3 first second rest induction =>
      rcases induction (by simp [Balanced.pairUp]) with ⟨unfinished, whole, left, joined⟩
      rw [clog_length join]
      refine ⟨?_, whole, left, joined⟩
      intro passes before
      cases passes with
      | zero => simp
      | succ passes => exact unfinished passes (Nat.lt_of_succ_lt_succ before)

end

/-! ## The shape -/

section

variable {Item : Type} (items : List Item)

/-- Joining pairwise, again and again, gives nothing for no items, and ends after as many passes as
the logarithm of their number, rounded up. What it gives is one tree of joins over the items in
their order, the same tree whatever the join does. No item lies under more joins than there were
passes, and the first one lies under exactly as many. -/
theorem joins_keep_order_and_stay_shallow :
    (∀ join, join? join items = none ↔ items = []) ∧
    (items ≠ [] →
      (∀ join, (∀ passes < Nat.clog 2 items.length, 1 < ((pairUp join)^[passes] items).length) ∧
        ∃ whole, (pairUp join)^[Nat.clog 2 items.length] items = [whole] ∧
          join? join items = some whole) ∧
      ∃ tree : JoinTree Item, join? JoinTree.node (items.map JoinTree.leaf) = some tree ∧
        (∀ join, join? join items = some (tree.fold join)) ∧ tree.items = items ∧
        tree.Within (Nat.clog 2 items.length) ∧ tree.Starts (Nat.clog 2 items.length)) := by
  refine ⟨fun join => join?_eq_none_iff, ?_⟩
  intro nonempty
  have leaves : items.map JoinTree.leaf ≠ [] := by simpa using nonempty
  rcases exists_join?_of_ne_nil leaves with ⟨tree, joined⟩
  have passed := passed_join? (passed_leaves items) joined
  rw [Nat.zero_add, List.length_map] at passed
  refine ⟨fun join => passes_end nonempty, tree, joined, JoinTree.join?_eq_fold joined, ?_,
    passed.within tree List.mem_cons_self, passed.starts tree rfl⟩
  exact standsFor_join? JoinTree.appends_items (fun item _ => rfl) joined

theorem five_items_joined :
    ∃ tree : JoinTree Nat, (∀ join, join? join [1, 2, 3, 4, 5] = some (tree.fold join)) ∧
      tree.items = [1, 2, 3, 4, 5] ∧ tree.Within 3 ∧ tree.Starts 3 := by
  have passes : Nat.clog 2 [1, 2, 3, 4, 5].length = 3 := by decide
  rcases (joins_keep_order_and_stay_shallow [1, 2, 3, 4, 5]).2 (by decide) with
    ⟨_, tree, _, shape⟩
  rw [passes] at shape
  exact ⟨tree, shape⟩

example :
    join? (fun left right => "(" ++ left ++ right ++ ")") ["a", "b", "c", "d", "e"] =
      some "(((ab)(cd))e)" := by
  cbv

end

end Balanced

end Criteria

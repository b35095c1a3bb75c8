import Criteria.Criterion.Many

/-!
Balanced joins keep what their items stand for.

Pairing up changes the items in every pass, and which of them get a partner depends on their number.
What stays is that the items, from left to right, stand for consecutive segments of one list. With a
join that appends segments, the last item stands for the whole list, whatever its length.
-/

namespace Criteria

namespace Balanced

variable {Item Source : Type}

/-- The items stand for consecutive segments that together are the list. -/
inductive Covers (StandsFor : Item → List Source → Prop) : List Item → List Source → Prop where
  | nil : Covers StandsFor [] []
  | cons {item : Item} {segment : List Source} {items : List Item} {sources : List Source}
      (first : StandsFor item segment) (rest : Covers StandsFor items sources) :
      Covers StandsFor (item :: items) (segment ++ sources)

def Appends (StandsFor : Item → List Source → Prop) (join : Item → Item → Item) : Prop :=
  ∀ left right first second, StandsFor left first → StandsFor right second →
    StandsFor (join left right) (first ++ second)

variable {StandsFor : Item → List Source → Prop} {join : Item → Item → Item}

private theorem covers_map {make : Source → Item} {sources : List Source}
    (stands : ∀ source ∈ sources, StandsFor (make source) [source]) :
    Covers StandsFor (sources.map make) sources := by
  induction sources with
  | nil => exact .nil
  | cons source sources induction =>
      have first := stands source List.mem_cons_self
      have rest := induction fun other member => stands other (List.mem_cons_of_mem source member)
      exact .cons first rest

private theorem covers_pairUp (appends : Appends StandsFor join) :
    ∀ {items : List Item} {sources : List Source}, Covers StandsFor items sources →
      Covers StandsFor (pairUp join items) sources
  | [], _, covers => covers
  | [_], _, covers => covers
  | left :: right :: _, _, .cons leftStands (.cons rightStands rest) => by
      rw [← List.append_assoc]
      exact .cons (appends left right _ _ leftStands rightStands) (covers_pairUp appends rest)

private theorem standsFor_of_covers (appends : Appends StandsFor join) {items : List Item}
    {sources : List Source} (covers : Covers StandsFor items sources)
    {whole : Item} (joined : join? join items = some whole) : StandsFor whole sources := by
  fun_induction join? join items with
  | case1 => cases joined
  | case2 last =>
      cases joined
      cases covers with
      | cons stands rest =>
          cases rest
          rwa [List.append_nil]
  | case3 first second rest induction => exact induction (covers_pairUp appends covers) joined

/-- If every source has an item that stands for it alone, their join stands for all of them. -/
theorem standsFor_join? (appends : Appends StandsFor join) {make : Source → Item}
    {sources : List Source} (stands : ∀ source ∈ sources, StandsFor (make source) [source])
    {whole : Item} (joined : join? join (sources.map make) = some whole) :
    StandsFor whole sources :=
  standsFor_of_covers appends (covers_map stands) joined

theorem exists_join?_of_ne_nil {items : List Item} (nonempty : items ≠ []) :
    ∃ whole, join? join items = some whole := by
  fun_induction join? join items with
  | case1 => exact absurd rfl nonempty
  | case2 last => exact ⟨last, rfl⟩
  | case3 first second rest induction => exact induction (by simp [pairUp])

theorem join?_eq_none_iff {items : List Item} : join? join items = none ↔ items = [] := by
  constructor
  · intro absent
    refine Decidable.byContradiction fun nonempty => ?_
    rcases exists_join?_of_ne_nil nonempty with ⟨whole, joined⟩
    rw [absent] at joined
    cases joined
  · intro empty
    rw [empty, join?]

/-! ## Joins of changed items -/

section

variable {Image : Type} {joinImages : Image → Image → Image} {image : Item → Image}

private theorem pairUp_map
    (commutes : ∀ left right, image (join left right) = joinImages (image left) (image right)) :
    ∀ items : List Item,
      pairUp joinImages (items.map image) = (pairUp join items).map image
  | [] => rfl
  | [_] => rfl
  | left :: right :: rest => by
      simp only [List.map_cons, pairUp, commutes, pairUp_map commutes rest]

theorem join?_map
    (commutes : ∀ left right, image (join left right) = joinImages (image left) (image right))
    (items : List Item) : join? joinImages (items.map image) = (join? join items).map image := by
  fun_induction join? join items with
  | case1 => rw [List.map_nil, join?, Option.map_none]
  | case2 last => rw [List.map_singleton, join?, Option.map_some]
  | case3 first second rest induction =>
      rw [← induction, ← pairUp_map commutes, List.map_cons, List.map_cons, join?]

theorem join?_pair (left right : Item) : join? join [left, right] = some (join left right) := by
  simp only [join?, pairUp]

end

end Balanced

end Criteria

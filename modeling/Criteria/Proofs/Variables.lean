import Criteria.Term

/-!
The variables of a term: where they occur, whether a given one does, and the ascending list that
names each of them once.
-/

namespace Criteria

/-! ## Ascending lists of variables -/

namespace Variable

def Ascending (symbols : List Variable) : Prop :=
  symbols.Pairwise fun left right => left.number < right.number

theorem mem_of_mem_insert {symbol found : Variable} {symbols : List Variable}
    (member : found ∈ insert symbol symbols) : found = symbol ∨ found ∈ symbols := by
  induction symbols with
  | nil => simpa [insert] using member
  | cons head tail induction =>
      unfold insert at member
      split at member
      · simpa using member
      · split at member
        · exact .inr member
        · rcases List.mem_cons.mp member with rfl | member
          · exact .inr List.mem_cons_self
          · exact (induction member).imp_right (List.mem_cons_of_mem head)

private theorem mem_insert_of_mem {symbol found : Variable} {symbols : List Variable}
    (member : found ∈ symbols) : found ∈ insert symbol symbols := by
  induction symbols with
  | nil => cases member
  | cons head tail induction =>
      unfold insert
      split
      · exact List.mem_cons_of_mem symbol member
      · split
        · exact member
        · rcases List.mem_cons.mp member with rfl | member
          · exact List.mem_cons_self
          · exact List.mem_cons_of_mem head (induction member)

theorem exists_same_mem_insert (symbol : Variable) (symbols : List Variable) :
    ∃ found ∈ insert symbol symbols, found.same symbol := by
  induction symbols with
  | nil => exact ⟨symbol, List.mem_cons_self, same_self symbol⟩
  | cons head tail induction =>
      unfold insert
      split
      · exact ⟨symbol, List.mem_cons_self, same_self symbol⟩
      · split
        case isTrue same =>
          exact ⟨head, List.mem_cons_self, same_iff.mpr (same_iff.mp same).symm⟩
        case isFalse =>
          rcases induction with ⟨found, member, same⟩
          exact ⟨found, List.mem_cons_of_mem head member, same⟩

private theorem Ascending.insert {symbols : List Variable} (ascending : Ascending symbols)
    (symbol : Variable) : Ascending (insert symbol symbols) := by
  induction symbols with
  | nil => exact List.pairwise_singleton _ symbol
  | cons head tail induction =>
      have parts := List.pairwise_cons.mp ascending
      unfold Variable.insert
      split
      case isTrue below =>
        refine List.pairwise_cons.mpr ⟨?_, ascending⟩
        intro other member
        rcases List.mem_cons.mp member with rfl | member
        · exact below
        · exact Nat.lt_trans below (parts.1 other member)
      case isFalse notBelow =>
        split
        case isTrue => exact ascending
        case isFalse different =>
          refine List.pairwise_cons.mpr ⟨?_, induction parts.2⟩
          intro other member
          rcases mem_of_mem_insert member with rfl | member
          · have apart : other.number ≠ head.number := fun equal =>
              different (same_iff.mpr equal)
            omega
          · exact parts.1 other member

theorem foldl_insert (symbols collected : List Variable) (ascending : Ascending collected) :
    let result := symbols.foldl (fun collected symbol => insert symbol collected) collected
    Ascending result ∧
      (∀ found ∈ result, found ∈ symbols ∨ found ∈ collected) ∧
      (∀ found ∈ collected, found ∈ result) ∧
      ∀ symbol ∈ symbols, ∃ found ∈ result, found.same symbol := by
  induction symbols generalizing collected with
  | nil => exact ⟨ascending, fun _ member => .inr member, fun _ member => member, nofun⟩
  | cons head tail induction =>
      rcases induction (insert head collected) (ascending.insert head) with
        ⟨sorted, only, kept, every⟩
      refine ⟨sorted, ?_, ?_, ?_⟩
      · intro found member
        rcases only found member with member | member
        · exact .inl (List.mem_cons_of_mem head member)
        · rcases mem_of_mem_insert member with rfl | member
          · exact .inl List.mem_cons_self
          · exact .inr member
      · intro found member
        exact kept found (mem_insert_of_mem member)
      · intro symbol member
        rcases List.mem_cons.mp member with rfl | member
        · rcases exists_same_mem_insert symbol collected with ⟨found, inserted, same⟩
          exact ⟨found, kept found inserted, same⟩
        · exact every symbol member

theorem sorted_ascending (symbols : List Variable) : Ascending (sorted symbols) :=
  (foldl_insert symbols [] List.Pairwise.nil).1

theorem mem_of_mem_sorted {symbols : List Variable} {found : Variable}
    (member : found ∈ sorted symbols) : found ∈ symbols := by
  rcases (foldl_insert symbols [] List.Pairwise.nil).2.1 found member with member | member
  · exact member
  · cases member

theorem exists_same_mem_sorted {symbols : List Variable} {symbol : Variable}
    (member : symbol ∈ symbols) : ∃ found ∈ sorted symbols, found.same symbol :=
  (foldl_insert symbols [] List.Pairwise.nil).2.2.2 symbol member

theorem sorted_of_forall_eq {symbols : List Variable} {symbol : Variable}
    (equal : ∀ found ∈ symbols, found = symbol) (occurs : symbols ≠ []) :
    sorted symbols = [symbol] := by
  have only : ∀ found ∈ sorted symbols, found = symbol := fun found member =>
    equal found (mem_of_mem_sorted member)
  rcases List.exists_mem_of_ne_nil symbols occurs with ⟨first, member⟩
  rcases exists_same_mem_sorted member with ⟨found, foundMember, _⟩
  have ascending := sorted_ascending symbols
  generalize sorted symbols = result at only foundMember ascending
  match result with
  | [] => cases foundMember
  | [single] => rw [only single List.mem_cons_self]
  | head :: second :: rest =>
      have below := (List.pairwise_cons.mp ascending).1 second List.mem_cons_self
      rw [only head List.mem_cons_self,
        only second (List.mem_cons_of_mem head List.mem_cons_self)] at below
      omega

/-- The first variable of a kind in the ascending list is the least of its kind, provided that the
kind does not tell variables of one number apart. -/
theorem find?_sorted {symbols : List Variable} {test : Variable → Bool} {found : Variable}
    (stable : ∀ left right : Variable, left.same right → test left = test right)
    (first : (sorted symbols).find? test = some found) :
    found ∈ symbols ∧ test found ∧
      ∀ symbol ∈ symbols, test symbol → found.number ≤ symbol.number := by
  rcases List.find?_eq_some_iff_append.mp first with ⟨passes, before, behind, split, failing⟩
  refine ⟨mem_of_mem_sorted (List.mem_of_find?_eq_some first), passes, ?_⟩
  intro symbol occurs symbolPasses
  rcases exists_same_mem_sorted occurs with ⟨listed, member, same⟩
  have listedPasses : test listed := by rwa [stable listed symbol same]
  have equal : listed.number = symbol.number := same_iff.mp same
  have ascending := sorted_ascending symbols
  rw [split] at ascending member
  rcases List.mem_append.mp member with early | late
  · have fails := failing listed early
    simp [listedPasses] at fails
  · rcases List.mem_cons.mp late with rfl | late
    · exact Nat.le_of_eq equal
    · have below := (List.pairwise_cons.mp (List.pairwise_append.mp ascending).2.1).1 listed late
      omega

end Variable

/-! ## Occurrences -/

namespace Term

variable {World : Type}

theorem mem_occurrencesInAll {symbol : Variable} {terms : List (Term World)} :
    symbol ∈ occurrencesInAll terms ↔ ∃ term ∈ terms, symbol ∈ term.occurrences := by
  induction terms with
  | nil => simp [occurrencesInAll]
  | cons term terms induction => simp [occurrencesInAll, induction]

private theorem anyMentions_iff {symbol : Variable} {terms : List (Term World)} :
    anyMentions symbol terms ↔ ∃ term ∈ terms, term.mentions symbol := by
  induction terms with
  | nil => simp [anyMentions]
  | cons term terms induction => simp [anyMentions, induction]

theorem mentions_iff {symbol : Variable} {term : Term World} :
    term.mentions symbol ↔ ∃ found ∈ term.occurrences, found.same symbol := by
  induction term with
  | call target method arguments targetHolds argumentsHold =>
      simp only [mentions, occurrences, Bool.or_eq_true, targetHolds, anyMentions_iff,
        List.mem_append, mem_occurrencesInAll]
      constructor
      · intro mentions
        rcases mentions with ⟨found, member, same⟩ | ⟨argument, member, mentioned⟩
        · exact ⟨found, .inl member, same⟩
        · rcases (argumentsHold argument member).mp mentioned with ⟨found, occurs, same⟩
          exact ⟨found, .inr ⟨argument, member, occurs⟩, same⟩
      · intro found
        rcases found with ⟨found, occurs | ⟨argument, member, occurs⟩, same⟩
        · exact .inl ⟨found, occurs, same⟩
        · exact .inr ⟨argument, member, (argumentsHold argument member).mpr ⟨found, occurs, same⟩⟩
  | _ => simp_all [mentions, occurrences, or_and_right, exists_or, or_assoc]

theorem mem_occurrences_of_mem_freeVariables {symbol : Variable} {term : Term World}
    (member : symbol ∈ term.freeVariables) : symbol ∈ term.occurrences :=
  Variable.mem_of_mem_sorted member

end Term

end Criteria

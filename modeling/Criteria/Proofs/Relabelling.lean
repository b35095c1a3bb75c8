import Criteria.Proofs.Substitution
import Criteria.Sample.Gallery

/-!
Relabelling: changing the variables and the opaque tests of a term and nothing else.

Moving a term to another variable is one relabelling; forgetting all names is another. Every
relabelling keeps the shape of a term and changes each occurrence by itself, so two of them in turn
are one, and only what they do to the variables that occur matters. The laws of substitution are
cases of that.
-/

namespace Criteria

variable {World : Type}

/-! ## Naming -/

abbrev Naming := Nat → String

namespace Variable

/-- The variable goes by the name that belongs to its number. -/
def NamedBy (naming : Naming) (symbol : Variable) : Prop :=
  symbol.name = naming symbol.number

theorem NamedBy.eq_of_same {naming : Naming} {left right : Variable}
    (leftNamed : left.NamedBy naming) (rightNamed : right.NamedBy naming)
    (same : left.same right) : left = right := by
  have number := same_iff.mp same
  have name : left.name = right.name := by rw [leftNamed, rightNamed, number]
  cases left
  cases right
  cases number
  cases name
  rfl

theorem mem_sorted_iff {naming : Naming} {symbols : List Variable}
    (named : ∀ found ∈ symbols, found.NamedBy naming) {symbol : Variable} :
    symbol ∈ sorted symbols ↔ symbol ∈ symbols := by
  constructor
  · exact mem_of_mem_sorted
  · intro member
    rcases exists_same_mem_sorted member with ⟨found, listed, same⟩
    have foundNamed := named found (mem_of_mem_sorted listed)
    rwa [← foundNamed.eq_of_same (named symbol member) same]

end Variable

/-! ## Relabellings -/

/-- What stands in the place of each variable and of each opaque test. -/
structure Relabelling (World : Type) where
  symbol : Variable → Variable
  valueTest : ValueTest World → ValueTest World
  entityTest : EntityTest World → EntityTest World

namespace Relabelling

def ofSymbols (symbol : Variable → Variable) : Relabelling World :=
  ⟨symbol, id, id⟩

def andThen (first second : Relabelling World) : Relabelling World :=
  ⟨second.symbol ∘ first.symbol, second.valueTest ∘ first.valueTest,
    second.entityTest ∘ first.entityTest⟩

end Relabelling

namespace Term

mutual
def relabel (change : Relabelling World) : Term World → Term World
  | .var symbol => .var (change.symbol symbol)
  | .literal value => .literal value
  | .member target name => .member (target.relabel change) name
  | .call target method arguments =>
      .call (target.relabel change) method (relabelAll change arguments)
  | .compare left comparison right =>
      .compare (left.relabel change) comparison (right.relabel change)
  | .test subject operator operand check =>
      .test (subject.relabel change) operator operand (change.valueTest check)
  | .custom symbol label check =>
      .custom (change.symbol symbol) label (change.entityTest check)
  | .and left right => .and (left.relabel change) (right.relabel change)
  | .or left right => .or (left.relabel change) (right.relabel change)
  | .not operand => .not (operand.relabel change)
  | .conditional condition whenTrue whenFalse =>
      .conditional (condition.relabel change) (whenTrue.relabel change)
        (whenFalse.relabel change)
  | .add left right => .add (left.relabel change) (right.relabel change)

def relabelAll (change : Relabelling World) : List (Term World) → List (Term World)
  | [] => []
  | term :: terms => term.relabel change :: relabelAll change terms
end

theorem relabelAll_eq_map (change : Relabelling World) (terms : List (Term World)) :
    relabelAll change terms = terms.map (relabel change) := by
  induction terms with
  | nil => rfl
  | cons term terms induction => rw [relabelAll, induction, List.map_cons]

theorem rebind_eq_relabel (old new : Variable) (term : Term World) :
    term.rebind old new = term.relabel (.ofSymbols (·.renamed old new)) := by
  induction term with
  | call target method arguments targetEqual argumentsEqual =>
      rw [rebind, relabel, rebindAll_eq_map, relabelAll_eq_map, targetEqual,
        List.map_congr_left argumentsEqual]
  | _ => simp_all [rebind, relabel, Relabelling.ofSymbols]

/-! ## Laws -/

private theorem occurrencesInAll_eq_flatMap (terms : List (Term World)) :
    occurrencesInAll terms = terms.flatMap occurrences := by
  induction terms with
  | nil => rfl
  | cons term terms induction => rw [occurrencesInAll, induction, List.flatMap_cons]

private theorem sizeOfAll_map {change : Term World → Term World} {terms : List (Term World)}
    (kept : ∀ term ∈ terms, (change term).size = term.size) :
    sizeOfAll (terms.map change) = sizeOfAll terms := by
  induction terms with
  | nil => rfl
  | cons term terms induction =>
      have first := kept term List.mem_cons_self
      have rest := induction fun other member => kept other (List.mem_cons_of_mem term member)
      rw [List.map_cons, sizeOfAll, sizeOfAll, first, rest]

theorem relabel_relabel (first second : Relabelling World) (term : Term World) :
    (term.relabel first).relabel second = term.relabel (first.andThen second) := by
  induction term with
  | call target method arguments targetEqual argumentsEqual =>
      simp only [relabel, relabelAll_eq_map, List.map_map, targetEqual]
      rw [List.map_congr_left (by simpa using argumentsEqual)]
  | _ => simp_all [relabel, Relabelling.andThen]

theorem occurrences_relabel (change : Relabelling World) (term : Term World) :
    (term.relabel change).occurrences = term.occurrences.map change.symbol := by
  induction term with
  | call target method arguments targetEqual argumentsEqual =>
      simp only [relabel, occurrences, relabelAll_eq_map, occurrencesInAll_eq_flatMap,
        List.flatMap_map, List.map_append, List.map_flatMap, targetEqual]
      rw [List.flatMap_def, List.flatMap_def, List.map_congr_left argumentsEqual]
  | _ => simp_all [relabel, occurrences]

private theorem size_relabel (change : Relabelling World) (term : Term World) :
    (term.relabel change).size = term.size := by
  induction term with
  | call target method arguments targetEqual argumentsEqual =>
      rw [relabel, size, size, relabelAll_eq_map, targetEqual, sizeOfAll_map argumentsEqual]
  | _ => simp_all [relabel, size]

theorem relabel_congr {first second : Relabelling World}
    (valueTests : first.valueTest = second.valueTest)
    (entityTests : first.entityTest = second.entityTest) {term : Term World}
    (symbols : ∀ symbol ∈ term.occurrences, first.symbol symbol = second.symbol symbol) :
    term.relabel first = term.relabel second := by
  induction term with
  | call target method arguments targetEqual argumentsEqual =>
      simp only [occurrences, List.mem_append, mem_occurrencesInAll] at symbols
      have target_eq := targetEqual fun symbol member => symbols symbol (.inl member)
      have arguments_eq : arguments.map (relabel first) = arguments.map (relabel second) :=
        List.map_congr_left fun argument member => argumentsEqual argument member
          fun symbol occurs => symbols symbol (.inr ⟨argument, member, occurs⟩)
      simp only [relabel, relabelAll_eq_map, target_eq, arguments_eq]
  | _ => simp_all [relabel, occurrences]

private theorem relabel_id (term : Term World) : term.relabel (.ofSymbols id) = term := by
  induction term with
  | call target method arguments targetKept argumentsKept =>
      rw [relabel, relabelAll_eq_map, targetKept, List.map_congr_left argumentsKept, List.map_id']
  | _ => simp_all [relabel, Relabelling.ofSymbols]

/-! ## Substitution

A move followed by a move of the new variable is one move, provided that the new variable did not
occur before. -/

section

variable {naming : Naming} {old new : Variable} {term : Term World}

theorem rebind_rebind (third : Variable) (fresh : ∀ symbol ∈ term.occurrences, ¬ symbol.same new) :
    (term.rebind old new).rebind new third = term.rebind old third := by
  simp only [rebind_eq_relabel, relabel_relabel]
  refine relabel_congr (by rfl) (by rfl) ?_
  intro symbol occurs
  change (symbol.renamed old new).renamed new third = symbol.renamed old third
  by_cases own : symbol.same old
  · rw [Variable.renamed_of_same new own, Variable.renamed_of_same third own,
      Variable.renamed_of_same third new.same_self]
  · rw [Variable.renamed_of_not_same new own, Variable.renamed_of_not_same third own,
      Variable.renamed_of_not_same third (fresh symbol occurs)]

theorem rebind_self (own : old.NamedBy naming)
    (named : ∀ symbol ∈ term.occurrences, symbol.NamedBy naming) : term.rebind old old = term := by
  refine (rebind_eq_relabel old old term).trans (.trans ?_ (relabel_id term))
  refine relabel_congr (by rfl) (by rfl) ?_
  intro symbol occurs
  change symbol.renamed old old = symbol
  by_cases same : symbol.same old
  · rw [Variable.renamed_of_same old same, (named symbol occurs).eq_of_same own same]
  · exact Variable.renamed_of_not_same old same

/-- The early exit of `substitute` and the move agree. -/
theorem substitute_eq_rebind_of_named (oldNamed : old.NamedBy naming)
    (newNamed : new.NamedBy naming)
    (named : ∀ symbol ∈ term.occurrences, symbol.NamedBy naming) :
    term.substitute old new = term.rebind old new := by
  by_cases same : old.same new
  · rw [← oldNamed.eq_of_same newNamed same, rebind_self oldNamed named, substitute,
      old.same_self, Bool.true_or, if_pos rfl]
  · exact substitute_eq_rebind same term

private theorem substitute_of_not_mentions (new : Variable) (absent : ¬ term.mentions old) :
    term.substitute old new = term := by
  simp [substitute, absent]

theorem mem_freeVariables_iff (named : ∀ symbol ∈ term.occurrences, symbol.NamedBy naming)
    {symbol : Variable} : symbol ∈ term.freeVariables ↔ symbol ∈ term.occurrences :=
  Variable.mem_sorted_iff named

private theorem mentions_iff_mem_freeVariables (own : old.NamedBy naming)
    (named : ∀ symbol ∈ term.occurrences, symbol.NamedBy naming) :
    term.mentions old ↔ old ∈ term.freeVariables := by
  rw [mentions_iff, mem_freeVariables_iff named]
  constructor
  · intro mentioned
    rcases mentioned with ⟨found, occurs, same⟩
    rwa [← (named found occurs).eq_of_same own same]
  · intro occurs
    exact ⟨old, occurs, old.same_self⟩

theorem named_rebind (newNamed : new.NamedBy naming)
    (named : ∀ symbol ∈ term.occurrences, symbol.NamedBy naming) :
    ∀ symbol ∈ (term.rebind old new).occurrences, symbol.NamedBy naming := by
  intro symbol occurs
  rw [occurrences_rebind] at occurs
  rcases List.mem_map.mp occurs with ⟨found, member, rfl⟩
  unfold Variable.renamed
  split
  · exact newNamed
  · exact named found member

theorem mem_freeVariables_rebind (oldNamed : old.NamedBy naming) (newNamed : new.NamedBy naming)
    (named : ∀ symbol ∈ term.occurrences, symbol.NamedBy naming) (mentioned : term.mentions old)
    {symbol : Variable} : symbol ∈ (term.rebind old new).freeVariables ↔
      symbol = new ∨ (symbol ∈ term.freeVariables ∧ symbol ≠ old) := by
  have different {found : Variable} (occurs : found ∈ term.occurrences) :
      ¬ found.same old ↔ found ≠ old := by
    refine not_congr ⟨(named found occurs).eq_of_same oldNamed, ?_⟩
    rintro rfl
    exact found.same_self
  rw [mem_freeVariables_iff (named_rebind newNamed named), mem_freeVariables_iff named,
    occurrences_rebind, List.mem_map]
  constructor
  · intro moved
    rcases moved with ⟨found, occurs, rfl⟩
    by_cases own : found.same old
    · exact .inl (Variable.renamed_of_same new own)
    · rw [Variable.renamed_of_not_same new own]
      exact .inr ⟨occurs, (different occurs).mp own⟩
  · intro stands
    rcases stands with rfl | ⟨occurs, other⟩
    · rcases mentions_iff.mp mentioned with ⟨found, occurs, own⟩
      exact ⟨found, occurs, Variable.renamed_of_same symbol own⟩
    · exact ⟨symbol, occurs, Variable.renamed_of_not_same new ((different occurs).mpr other)⟩

end

/-- The algebra of substitution, where every number has one name.

Whether a variable is mentioned, which variables are free and what a move changes are told by four
separate traversals; they agree on what an occurrence is. A substitution replaces one free variable
and keeps the size. It does nothing where there is nothing to replace, by the early exit as well as
by the move. A variable that does not occur can be moved to and back, or on to a third. -/
theorem substitution_laws {naming : Naming} {old new third : Variable} {term : Term World}
    (oldNamed : old.NamedBy naming) (newNamed : new.NamedBy naming)
    (thirdNamed : third.NamedBy naming)
    (named : ∀ symbol ∈ term.occurrences, symbol.NamedBy naming) :
    (term.mentions old ↔ old ∈ term.freeVariables) ∧
    (term.mentions old → ∀ symbol, symbol ∈ (term.substitute old new).freeVariables ↔
      symbol = new ∨ (symbol ∈ term.freeVariables ∧ symbol ≠ old)) ∧
    (¬ term.mentions old → (term.substitute old new).freeVariables = term.freeVariables) ∧
    (term.substitute old new).size = term.size ∧
    (¬ term.mentions old ∨ old = new →
      term.substitute old new = term ∧ term.rebind old new = term) ∧
    (¬ term.mentions new →
      (term.substitute old new).substitute new old = term ∧
      (term.substitute old new).substitute new third = term.substitute old third) := by
  have moved := substitute_eq_rebind_of_named oldNamed newNamed named
  have movedNamed : ∀ symbol ∈ (term.rebind old new).occurrences, symbol.NamedBy naming :=
    named_rebind newNamed named
  refine ⟨mentions_iff_mem_freeVariables oldNamed named, ?_, ?_, ?_, ?_, ?_⟩
  · intro mentioned symbol
    rw [moved]
    exact mem_freeVariables_rebind oldNamed newNamed named mentioned
  · intro absent
    rw [substitute_of_not_mentions new absent]
  · rw [moved, rebind_eq_relabel, size_relabel]
  · intro nothing
    rw [moved, and_self]
    rcases nothing with absent | rfl
    · rw [← moved, substitute_of_not_mentions new absent]
    · exact rebind_self oldNamed named
  · intro fresh
    have apart : ∀ symbol ∈ term.occurrences, ¬ symbol.same new := fun symbol occurs same =>
      fresh (mentions_iff.mpr ⟨symbol, occurs, same⟩)
    rw [moved, substitute_eq_rebind_of_named newNamed oldNamed movedNamed,
      substitute_eq_rebind_of_named newNamed thirdNamed movedNamed,
      substitute_eq_rebind_of_named oldNamed thirdNamed named, rebind_rebind old apart,
      rebind_rebind third apart]
    exact ⟨rebind_self oldNamed named, rfl⟩

section

open Sample

def vipOrTagged : Term Gallery :=
  .or (.custom ⟨0, "x"⟩ "vip" ⟨3, fun _ => pure true⟩)
    (.compare (.call (.var ⟨1, "y"⟩) "tag_at" [.member (.var ⟨0, "x"⟩) "count"]) .ne
      (.literal .none))

theorem vipOrTagged_laws :
    ¬ vipOrTagged.mentions ⟨2, "z"⟩ ∧
      (vipOrTagged.substitute ⟨0, "x"⟩ ⟨2, "z"⟩).substitute ⟨2, "z"⟩ ⟨0, "x"⟩ = vipOrTagged ∧
      (vipOrTagged.substitute ⟨0, "x"⟩ ⟨2, "z"⟩).substitute ⟨2, "z"⟩ ⟨1, "y"⟩ =
        vipOrTagged.substitute ⟨0, "x"⟩ ⟨1, "y"⟩ := by
  have fresh : ¬ vipOrTagged.mentions ⟨2, "z"⟩ := by decide
  refine ⟨fresh, ?_⟩
  refine (@substitution_laws Gallery (fun number => ["x", "y", "z"].getD number "") ⟨0, "x"⟩
    ⟨2, "z"⟩ ⟨1, "y"⟩ vipOrTagged rfl rfl rfl ?_).2.2.2.2.2 fresh
  simp [vipOrTagged, occurrences, occurrencesInAll, Variable.NamedBy]

/-- To a variable that does occur there is no way back. -/
example : (vipOrTagged.substitute ⟨0, "x"⟩ ⟨1, "y"⟩).mentions ⟨0, "x"⟩ = false ∧
    ((vipOrTagged.substitute ⟨0, "x"⟩ ⟨1, "y"⟩).substitute ⟨1, "y"⟩ ⟨0, "x"⟩).mentions ⟨1, "y"⟩ =
      false := by
  decide

end

end Term

end Criteria

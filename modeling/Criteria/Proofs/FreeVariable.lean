import Criteria.Criterion.Evaluation
import Criteria.Proofs.Compilation
import Criteria.Proofs.Judgement
import Criteria.Proofs.Reachable
import Criteria.Proofs.Sequence

/-!
The single free variable of a criterion.

No run of constructions makes a term that mentions anything but the bound variable. So evaluation
never meets a foreign variable, and a failure that speaks of one must have come out of an opaque
test: the one with which the run ended, in the world to which the run had come.
-/

namespace Criteria

variable {World : Type}

/-! ## Parts that are kept -/

namespace Term

theorem Contains.trans {whole part inner : Term World} (outer : whole.Contains part)
    (contains : part.Contains inner) : whole.Contains inner := by
  induction outer with
  | self => exact contains
  | child member _ induction => exact .child member (induction contains)

private theorem children_rebind (old new : Variable) (term : Term World) :
    (term.rebind old new).children = term.children.map (rebind old new) := by
  cases term <;> simp [rebind, children, rebindAll_eq_map]

theorem Contains.rebind {whole part : Term World} (contains : whole.Contains part)
    (old new : Variable) : (whole.rebind old new).Contains (part.rebind old new) := by
  induction contains with
  | self => exact .self
  | child member _ induction =>
      refine .child ?_ induction
      rw [children_rebind]
      exact List.mem_map_of_mem member

private theorem contains_join? {join : Term World → Term World → Term World}
    (kept : ∀ left right, (join left right).children = [left, right])
    {terms : List (Term World)} {whole : Term World}
    (joined : Balanced.join? join terms = some whole) : ∀ term ∈ terms, whole.Contains term := by
  have appends : Balanced.Appends (fun (whole : Term World) (segment : List (Term World)) =>
      ∀ term ∈ segment, whole.Contains term) join := by
    intro left right first second leftContains rightContains term member
    rcases List.mem_append.mp member with member | member
    · exact .child (by simp [kept]) (leftContains term member)
    · exact .child (by simp [kept]) (rightContains term member)
  rw [← List.map_id terms] at joined
  refine Balanced.standsFor_join? appends ?_ joined
  intro term _ found member
  rw [List.mem_singleton.mp member]
  exact .self

end Term

theorem Criterion.Sums.contains {operands : List (Criterion World)} {quantifier : Quantifier}
    {predicate : Predicate World} {sum : Term World} {threshold : Int64}
    (sums : Sums operands quantifier predicate sum threshold) {operand : Criterion World}
    (member : operand ∈ operands) :
    predicate.body.Contains (operand.predicate.bodyOn predicate.bound) := by
  rcases sums with ⟨joined, _, body⟩
  have unit := Term.contains_join? (fun _ _ => rfl) joined _ (List.mem_map_of_mem member)
  have inner : (unitFor (operand.predicate.bodyOn predicate.bound)).Contains
      (operand.predicate.bodyOn predicate.bound) := .child List.mem_cons_self .self
  rw [body]
  exact .child List.mem_cons_self (unit.trans inner)

/-! ## Failures that opaque tests return -/

private theorem Term.Contains.mem_occurrences {whole part : Term World}
    (contains : whole.Contains part)
    {symbol : Variable} (occurs : symbol ∈ part.occurrences) : symbol ∈ whole.occurrences := by
  induction contains with
  | self => exact occurs
  | child member _ induction => exact mem_occurrences_of_mem_children member (induction occurs)

section

variable [Records World]

/-- Where a run of the term has come to from `world` after these touches. Each read, each call and
each opaque test of the term took place in the world that the step before it left behind. -/
inductive Term.Leads (term : Term World) (entity : Record) (world : World) :
    List Touch → World → Prop where
  | start : Leads term entity world [] world
  | member {touches : List Touch} {now : World} (record : Record) (name : String)
      (before : Leads term entity world touches now) :
      Leads term entity world (touches ++ [.member record name])
        (Records.member record name now).2
  | call {touches : List Touch} {now : World} (record : Record) (method : String)
      (arguments : List Value) (before : Leads term entity world touches now) :
      Leads term entity world (touches ++ [.call record method arguments])
        (Records.call record method arguments now).2
  | closure {touches : List Touch} {now : World} (identity nodes : Nat) (label : String)
      (before : Leads term entity world touches now) :
      Leads term entity world (touches ++ [.closure identity nodes label]) now
  | valueTest {touches more : List Touch} {now after : World} {subject : Term World}
      {operator : String} {operand : Option Value} {check : ValueTest World} {value : Value}
      {verdict : Bool} (part : term.Contains (.test subject operator operand check))
      (before : Leads term entity world touches now)
      (ran : check.run value now = ⟨.ok verdict, more, after⟩) :
      Leads term entity world (touches ++ .test check.identity :: more) after
  | entityTest {touches more : List Touch} {now after : World} {symbol : Variable}
      {label : String} {check : EntityTest World} {verdict : Bool}
      (part : term.Contains (.custom symbol label check))
      (before : Leads term entity world touches now)
      (ran : check.run entity now = ⟨.ok verdict, more, after⟩) :
      Leads term entity world (touches ++ .test check.identity :: more) after

namespace Term.Leads

variable {term : Term World} {entity : Record} {world middle last : World}
  {touches more : List Touch}

theorem trans (first : term.Leads entity world touches middle)
    (second : term.Leads entity middle more last) :
    term.Leads entity world (touches ++ more) last := by
  induction second with
  | start => rwa [List.append_nil]
  | member record name _ induction =>
      rw [← List.append_assoc]
      exact .member record name induction
  | call record method arguments _ induction =>
      rw [← List.append_assoc]
      exact .call record method arguments induction
  | closure identity nodes label _ induction =>
      rw [← List.append_assoc]
      exact .closure identity nodes label induction
  | valueTest part _ ran induction =>
      rw [← List.append_assoc]
      exact .valueTest part induction ran
  | entityTest part _ ran induction =>
      rw [← List.append_assoc]
      exact .entityTest part induction ran

theorem moved {whole : Term World} {old new : Variable}
    (leads : term.Leads entity world touches last)
    (contains : whole.Contains (term.rebind old new)) :
    whole.Leads entity world touches last := by
  induction leads with
  | start => exact .start
  | member record name _ induction => exact .member record name induction
  | call record method arguments _ induction => exact .call record method arguments induction
  | closure identity nodes label _ induction => exact .closure identity nodes label induction
  | valueTest part _ ran induction =>
      exact .valueTest (contains.trans (part.rebind old new)) induction ran
  | entityTest part _ ran induction =>
      exact .entityTest (contains.trans (part.rebind old new)) induction ran

end Term.Leads

/-- The run came to an opaque test of the predicate, the test was run there and returned a failure,
and with that the run ended. A test of a value was run on what its subject had just given. -/
inductive Predicate.Returned {Answer : Type} (predicate : Predicate World) (entity : Record)
    (world : World) : Outcome World Answer → Prop where
  | valueTest {before opened more : List Touch} {start after : World} {subject : Term World}
      {operator : String} {operand : Option Value} {check : ValueTest World} {value : Value}
      {failure : Failure}
      (part : predicate.body.Contains (.test subject operator operand check))
      (leads : predicate.body.Leads entity world before start)
      (given : (subject.value ⟨predicate.bound, entity⟩ start).answer = .ok value)
      (onward : predicate.body.Leads entity start opened
        (subject.value ⟨predicate.bound, entity⟩ start).world)
      (returned : check.run value (subject.value ⟨predicate.bound, entity⟩ start).world =
        ⟨.error failure, more, after⟩) :
      Returned predicate entity world
        ⟨.error failure, before ++ (opened ++ .test check.identity :: more), after⟩
  | entityTest {before more : List Touch} {now after : World} {symbol : Variable}
      {label : String} {check : EntityTest World} {failure : Failure}
      (part : predicate.body.Contains (.custom symbol label check))
      (leads : predicate.body.Leads entity world before now)
      (returned : check.run entity now = ⟨.error failure, more, after⟩) :
      Returned predicate entity world
        ⟨.error failure, before ++ .test check.identity :: more, after⟩

namespace Predicate.Returned

variable {Answer : Type} {predicate : Predicate World} {entity : Record} {world middle : World}

theorem later {Next : Type} {touches more : List Touch} {failure : Failure} {after : World}
    (leads : predicate.body.Leads entity world touches middle)
    (returned : predicate.Returned entity middle
      (⟨.error failure, more, after⟩ : Outcome World Answer)) :
    predicate.Returned entity world
      (⟨.error failure, touches ++ more, after⟩ : Outcome World Next) := by
  cases returned with
  | valueTest part come given onward returned =>
      rw [← List.append_assoc]
      exact .valueTest part (leads.trans come) given onward returned
  | entityTest part come returned =>
      rw [← List.append_assoc]
      exact .entityTest part (leads.trans come) returned

theorem moved {whole : Predicate World} {outcome : Outcome World Answer}
    (returned : predicate.Returned entity world outcome) (closed : predicate.Closed)
    (contains : whole.body.Contains (predicate.body.rebind predicate.bound whole.bound)) :
    whole.Returned entity world outcome := by
  cases returned with
  | @valueTest _ _ _ start _ subject _ _ _ value _ part leads given onward returned =>
      have same : ((subject.rebind predicate.bound whole.bound).value
            ⟨whole.bound, entity⟩).Agrees (subject.value ⟨predicate.bound, entity⟩) :=
        Term.observed_value_rebind Failure.unnamed (fun _ _ => rfl) fun symbol occurs =>
          .inl (closed symbol (part.mem_occurrences occurs))
      have sameWorld : ((subject.rebind predicate.bound whole.bound).value
            ⟨whole.bound, entity⟩ start).world =
          (subject.value ⟨predicate.bound, entity⟩ start).world :=
        congrArg (fun probe => (probe start).world) same
      have givenToo : ((subject.rebind predicate.bound whole.bound).value
            ⟨whole.bound, entity⟩ start).answer = .ok value := by
        rw [← Probe.observed_answer_eq_ok_iff Failure.unnamed, same]
        exact (Probe.observed_answer_eq_ok_iff Failure.unnamed).mpr given
      rw [← sameWorld] at onward returned
      exact .valueTest (contains.trans (part.rebind predicate.bound whole.bound))
        (leads.moved contains) givenToo (onward.moved contains) returned
  | entityTest part leads returned =>
      exact .entityTest (contains.trans (part.rebind predicate.bound whole.bound))
        (leads.moved contains) returned

end Predicate.Returned

/-- If the probe ends with a failure about a foreign variable, a test of the predicate returned
it. -/
def Probe.Blames {Answer : Type} (probe : Probe World Answer) (predicate : Predicate World)
    (entity : Record) : Prop :=
  ∀ world failure, (probe world).answer = .error failure → failure.isForeign →
    predicate.Returned entity world (probe world)

def Probe.Leads {Answer : Type} (probe : Probe World Answer) (term : Term World)
    (entity : Record) : Prop :=
  ∀ world answer touches after, probe world = ⟨.ok answer, touches, after⟩ →
    term.Leads entity world touches after

namespace Judgement

/-- Answers satisfy the condition after steps of the predicate, and foreign variables are to be
blamed on its tests. -/
def blaming (predicate : Predicate World) (entity : Record) : Judgement World where
  Passes probe condition :=
    probe.Ensures condition ∧ probe.Leads predicate.body entity ∧ probe.Blames predicate entity
  pure holds := by
    refine ⟨Probe.ensures_pure holds, ?_, nofun⟩
    intro world answer touches after ran
    cases ran
    exact .start
  fail native := by
    refine ⟨nofun, nofun, ?_⟩
    intro world failure failed foreign
    cases failed
    rw [native] at foreign
    cases foreign
  bind := by
    intro Answer Next probe next before condition first rest
    rcases first with ⟨ensures, leads, blames⟩
    refine ⟨Probe.ensures_bind ensures fun answer holds => (rest answer holds).1, ?_, ?_⟩
    · intro world last touches after ran
      rcases Probe.exists_of_bind_ok ran with
        ⟨answer, begun, between, more, firstRan, lastRan, rfl⟩
      have holds := ensures world answer (by rw [firstRan])
      exact (leads world answer begun between firstRan).trans
        ((rest answer holds).2.1 between last more after lastRan)
    · intro world failure failed foreign
      rcases ran : probe world with ⟨found | answer, touches, after⟩
      · rw [Probe.bind_of_error ran] at failed ⊢
        cases failed
        have blamed := blames world failure (by rw [ran]) foreign
        rw [ran] at blamed
        exact Predicate.Returned.later .start blamed
      · rw [Probe.bind_of_ok ran] at failed ⊢
        have holds := ensures world answer (by rw [ran])
        have blamed := (rest answer holds).2.2 after failure failed foreign
        rcases last : next answer after with ⟨result, more, final⟩
        dsimp only at failed
        rw [last] at failed blamed
        cases failed
        exact blamed.later (leads world answer touches after ran)

variable {predicate : Predicate World} {entity : Record}

theorem supports_blaming (closed : predicate.Closed) :
    (blaming predicate entity).Supports (fun _ => True) ⟨predicate.bound, entity⟩
      predicate.body where
  expect symbol occurs := passes_expect _ (closed symbol occurs)
  bool _ := trivial
  int _ := trivial
  float _ := trivial
  literal _ := trivial
  entity := trivial
  member := by
    intro record name _
    refine passes_readMember _ ⟨fun _ _ _ _ _ => trivial, ?_, nofun⟩
    intro world found touches after ran
    cases ran
    exact .member record name .start
  call := by
    intro record method arguments _ _
    refine passes_callMethod _ ⟨fun _ _ _ _ _ => trivial, ?_, nofun⟩
    intro world found touches after ran
    cases ran
    exact .call record method arguments .start
  valueTest := by
    intro subject operator operand check part subjectPasses
    rcases subjectPasses with ⟨_, leads, blames⟩
    refine ⟨fun _ _ _ => trivial, ?_, ?_⟩
    · intro world verdict touches after ran
      rcases Probe.exists_of_bind_ok ran with ⟨value, opened, between, more, given, tested, rfl⟩
      rcases Probe.exists_of_bind_ok tested with ⟨_, _, _, further, touched, checked, rfl⟩
      cases touched
      exact .valueTest part (leads world value opened between given) checked
    · intro world failure failed foreign
      rcases given : subject.value ⟨predicate.bound, entity⟩ world with
        ⟨found | value, opened, between⟩
      · rw [Probe.bind_of_error given] at failed ⊢
        cases failed
        have blamed := blames world failure (by rw [given]) foreign
        rw [given] at blamed
        exact Predicate.Returned.later .start blamed
      · rw [Probe.bind_of_ok given, Probe.touch_bind] at failed ⊢
        rcases checked : check.run value between with ⟨result, more, after⟩
        dsimp only at failed
        rw [checked] at failed
        cases failed
        have onward := leads world value opened between given
        refine .valueTest part .start (by rw [given]) (by rwa [given]) ?_
        rw [given]
        exact checked
  entityTest := by
    intro symbol label check part
    refine ⟨fun _ _ _ => trivial, ?_, ?_⟩
    · intro world verdict touches after ran
      rcases Probe.exists_of_bind_ok ran with ⟨_, _, _, more, touched, checked, rfl⟩
      cases touched
      exact .entityTest part .start checked
    · intro world failure failed foreign
      rw [Probe.touch_bind] at failed ⊢
      rcases checked : check.run entity world with ⟨result, more, after⟩
      dsimp only at failed
      rw [checked] at failed
      cases failed
      exact .entityTest part .start checked

end Judgement

end

namespace Criterion

variable [Records World]

private theorem passes_tally (judgement : Judgement World) {entity : Record}
    {operands : List (Criterion World)}
    (passes : ∀ operand ∈ operands, judgement.Passes (operand.evaluate entity) fun _ => True)
    (count : Nat) : judgement.Passes (tally entity operands count) fun _ => True := by
  induction operands generalizing count with
  | nil => exact judgement.pure trivial
  | cons operand operands induction =>
      have rest := induction fun other member => passes other (List.mem_cons_of_mem operand member)
      refine judgement.bind (passes operand List.mem_cons_self) ?_
      intro verdict _
      cases verdict
      · exact rest count
      · exact rest (count + 1)

private theorem passes_closureUse (predicate : Predicate World) (entity : Record)
    (criterion : Criterion World) :
    (Judgement.blaming predicate entity).Passes (Probe.touch criterion.closureUse)
      fun _ => True := by
  refine ⟨fun _ _ _ => trivial, ?_, nofun⟩
  intro world answer touches after ran
  cases ran
  exact .closure _ _ _ .start

private theorem Sound.passes_evaluate {limit : Nat} {criterion : Criterion World}
    (sound : Sound limit criterion) (entity : Record) :
    (Judgement.blaming criterion.predicate entity).Passes (criterion.evaluate entity)
      fun _ => True := by
  induction sound with
  | tree closed => exact Judgement.passes_holds (Judgement.supports_blaming closed)
  | cached sourceSound =>
      rw [evaluate, Predicate.compile_eq_evaluate]
      refine Judgement.bind _ (passes_closureUse _ entity _) ?_
      intro _ _
      exact Judgement.passes_holds (Judgement.supports_blaming sourceSound.closed)
  | @count _ _ predicate operands quantifier _ _ _ _ sound apart sums induction =>
      refine Judgement.bind _ (passes_tally _ ?_ 0) fun _ _ => Judgement.pure _ trivial
      intro operand member
      rcases induction operand member with ⟨_, leads, blames⟩
      have contains := sums.contains member
      rw [Predicate.bodyOn_eq_rebind (apart operand member)] at contains
      refine ⟨fun _ _ _ => trivial, ?_, ?_⟩
      · intro world verdict touches after ran
        exact (leads world verdict touches after ran).moved contains
      · intro world failure failed foreign
        exact (blames world failure failed foreign).moved (sound operand member).closed contains

omit [Records World] in
private theorem cached_predicate (criterion : Criterion World) (now : Supply) :
    (criterion.cached now).1.predicate = criterion.predicate := by
  unfold cached
  split <;> rfl

private theorem Sound.path_blames {limit : Nat} {criterion : Criterion World}
    (sound : Sound limit criterion) (entity : Record) (now : Supply) :
    ∀ path ∈ [criterion.evaluate entity, criterion.predicate.evaluate entity,
        (criterion.compile now).1.run entity, (criterion.compiled now).1.1.run entity,
        (criterion.cached now).1.evaluate entity],
      path.Blames criterion.predicate entity := by
  have walked : (criterion.predicate.evaluate entity).Blames criterion.predicate entity :=
    (Judgement.passes_holds (Judgement.supports_blaming sound.closed)).2.2
  have cached := ((sound.cachedAt now).passes_evaluate entity).2.2
  rw [cached_predicate] at cached
  intro path member
  simp only [List.mem_cons, List.not_mem_nil, or_false] at member
  rcases member with rfl | rfl | rfl | rfl | rfl
  · exact (sound.passes_evaluate entity).2.2
  · exact walked
  · rwa [compile_run]
  · rwa [compiled_run]
  · exact cached

/-! ## Compositions -/

/-- The result is over a variable that did not exist before, and mentions it if one of the operands
mentions its own. -/
def StandsOnNew (supply : Supply) (operands : List (Criterion World))
    (result : Criterion World) : Prop :=
  (∀ symbol : Variable, symbol.number < supply.next → ¬ symbol.same result.bound) ∧
  result.body.freeVariables =
    if operands.any fun operand => operand.body.mentions operand.bound then [result.bound] else []

omit [Records World] in
private theorem Composes.standsOnNew {supply after : Supply} {operands : List (Criterion World)}
    {result : Criterion World} (composes : Composes supply operands result after)
    (reachable : ∀ operand ∈ operands, operand.Reachable supply) :
    StandsOnNew supply operands result := by
  have sound := fun operand member => (reachable operand member).sound
  constructor
  · intro symbol earlier same
    have equal := Variable.same_iff.mp same
    rw [composes.fresh] at equal
    omega
  · split
    case isTrue mentioned =>
      rcases List.any_eq_true.mp mentioned with ⟨operand, member, mentions⟩
      have occurs := (composes.mem_occurrences sound).mpr ⟨rfl, operand, member, mentions⟩
      exact Variable.sorted_of_forall_eq (fun symbol found =>
        ((composes.mem_occurrences sound).mp found).1) (List.ne_nil_of_mem occurs)
    case isFalse unmentioned =>
      have none : result.body.occurrences = [] := by
        rw [List.eq_nil_iff_forall_not_mem]
        intro symbol occurs
        rcases (composes.mem_occurrences sound).mp occurs with ⟨_, operand, member, mentions⟩
        exact unmentioned (List.any_eq_true.mpr ⟨operand, member, mentions⟩)
      rw [Term.freeVariables, none]
      rfl

omit [Records World] in
private theorem composes_of_combinatorNamed? {name : String} {count : Option Nat}
    {combinator : List (Criterion World) → Fresh (Except Refusal (Criterion World))}
    (found : combinatorNamed? name count = some combinator) {supply after : Supply}
    {operands : List (Criterion World)} {result : Criterion World}
    (made : combinator operands supply = (.ok result, after)) :
    Composes supply operands result after := by
  unfold combinatorNamed? at found
  split at found
  · cases found
    exact (composes_all made).1
  · cases found
    exact (composes_anyOf made).1
  · cases found
    exact (composes_noneOf made).1
  · rcases Option.map_eq_some_iff.mp found with ⟨quantifier, _, rfl⟩
    exact composes_counting made
  · cases found

/-- What can be said of the variables of all criteria.

A reachable criterion mentions its own variable only, and whichever way it is run, a failure about a
foreign variable was returned by one of its own tests. What a builder makes is reachable. A term is
accepted exactly if it mentions nothing but the given variable; otherwise the foreign variable that
was created first is named. Each combinator, with one, two or many operands, stands on a variable
that did not exist before. -/
theorem single_free_variable :
    (∀ (supply : Supply) (criterion : Criterion World), criterion.Reachable supply →
      (∀ symbol ∈ criterion.body.occurrences, symbol.same criterion.bound) ∧
      criterion.bound.number < supply.next ∧
      ∀ entity now,
        (∀ path ∈ [criterion.evaluate entity, criterion.predicate.evaluate entity,
            (criterion.compile now).1.run entity, (criterion.compiled now).1.1.run entity,
            (criterion.cached now).1.evaluate entity],
          path.Blames criterion.predicate entity) ∧
        ∀ mode, (criterion.trace mode entity).Blames criterion.predicate entity) ∧
    (∀ (supply after : Supply) (builder : Builder World) (criterion : Criterion World),
      builder.Reachable supply → builder.build supply = (.ok criterion, after) →
      criterion.Reachable after) ∧
    (∀ (supply : Supply) (bound : Variable) (term : Term World),
      ((∀ symbol ∈ term.occurrences, symbol.same bound) →
        ofTerm bound term supply =
          (.ok ⟨supply.next, none, ⟨bound, term⟩, .tree⟩, ⟨supply.next + 1⟩)) ∧
      ((¬ ∀ symbol ∈ term.occurrences, symbol.same bound) →
        ∃ found ∈ term.occurrences, ¬ found.same bound ∧
          (∀ symbol ∈ term.occurrences, ¬ symbol.same bound → found.number ≤ symbol.number) ∧
          ofTerm bound term supply = (.error (.unboundVariable bound found), supply))) ∧
    (∀ (supply : Supply) (connective : Connective) (left right : Criterion World),
      left.Reachable supply → right.Reachable supply →
      StandsOnNew supply [left, right] (combine connective left right supply).1) ∧
    (∀ (supply : Supply) (operand : Criterion World), operand.Reachable supply →
      StandsOnNew supply [operand] (negate operand supply).1) ∧
    ∀ (name : String) (count : Option Nat)
      (combinator : List (Criterion World) → Fresh (Except Refusal (Criterion World))),
      combinatorNamed? name count = some combinator →
      ∀ (supply after : Supply) (operands : List (Criterion World)) (result : Criterion World),
        (∀ operand ∈ operands, operand.Reachable supply) →
        combinator operands supply = (.ok result, after) →
        StandsOnNew supply operands result := by
  refine ⟨?_, ?_, ?_, ?_, ?_, ?_⟩
  · intro supply criterion reachable
    have sound := reachable.sound
    refine ⟨sound.closed, sound.drawn, ?_⟩
    intro entity now
    refine ⟨sound.path_blames entity now, ?_⟩
    intro mode
    exact (Judgement.passes_trace (Judgement.supports_blaming sound.closed) mode).2.2
  · intro supply after builder criterion reachable made
    exact reachable.build made
  · intro supply bound term
    exact ⟨ofTerm_of_closed, ofTerm_of_not_closed⟩
  · intro supply connective left right leftReachable rightReachable
    refine (composes_combine rfl).1.standsOnNew ?_
    intro operand member
    rcases List.mem_cons.mp member with rfl | member
    · exact leftReachable
    · rw [List.mem_singleton.mp member]
      exact rightReachable
  · intro supply operand reachable
    refine (composes_negate rfl).1.standsOnNew ?_
    intro only member
    rw [List.mem_singleton.mp member]
    exact reachable
  · intro name count combinator found supply after operands result reachable made
    exact (composes_of_combinatorNamed? found made).standsOnNew reachable

theorem xor_of_flags_standsOnNew :
    oneFlag.Reachable ⟨6⟩ ∧ (∀ symbol ∈ oneFlag.body.occurrences, symbol.same oneFlag.bound) ∧
      StandsOnNew ⟨4⟩ [flag 0 "a", flag 2 "b"]
        (combine .xor (flag 0 "a") (flag 2 "b") ⟨4⟩).1 := by
  have all := @single_free_variable Sample.Gallery _
  refine ⟨oneFlag_reachable, (all.1 ⟨6⟩ oneFlag oneFlag_reachable).1, ?_⟩
  exact all.2.2.2.1 ⟨4⟩ .xor (flag 0 "a") (flag 2 "b") (flag_reachable "a" (by decide))
    (flag_reachable "b" (by decide))

end Criterion

end Criteria

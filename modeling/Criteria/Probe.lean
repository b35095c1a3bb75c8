import Criteria.Failure

/-!
Evaluation as a computation over a world.

A `Probe` may read members of records, call their methods and run opaque tests. It ends with an
answer or a failure, and it reports every touch in the order in which they happened. The world is
passed along, so records may change under the eyes of a condition: two reads of one member need not
give the same value.

The monad laws hold, so equations between probes can be rewritten, and two equal probes give the
same answer, touch the same things in the same order, and leave the same world behind.
-/

namespace Criteria

/-! `closure` marks the use of the closure that a cached criterion compiles when it is first
needed: its identity, the size of its tree and the text of the criterion. -/

inductive Touch where
  | member (record : Record) (name : String)
  | call (record : Record) (method : String) (arguments : List Value)
  | test (identity : Nat)
  | closure (identity : Nat) (nodes : Nat) (label : String)

namespace Touch

/-- Reads, calls and tests reach outside the condition; the use of a closure does not. -/
def isAccess : Touch → Bool
  | .closure _ _ _ => false
  | _ => true

/-- Touches and those after them. Most steps touch nothing, and then nothing is copied. -/
def append : List Touch → List Touch → List Touch
  | [], more => more
  | touches, [] => touches
  | touches, more => touches ++ more

@[simp] theorem append_eq (touches more : List Touch) :
    append touches more = touches ++ more := by
  cases touches <;> cases more <;> simp [append]

end Touch

structure Outcome (World Answer : Type) where
  answer : Except Failure Answer
  touches : List Touch
  world : World

/-- A computation that inspects the records of a world. -/
def Probe (World Answer : Type) : Type :=
  World → Outcome World Answer

/-- How the records of a world answer. A record without the member or method gives no value at
all, which is different from giving the missing value. -/
class Records (World : Type) where
  member : Record → String → World → Option Value × World
  call : Record → String → List Value → World → Option Value × World

namespace Probe

variable {World Answer Next : Type}

def done (answer : Answer) : Probe World Answer :=
  fun world => ⟨.ok answer, [], world⟩

def fail (failure : Failure) : Probe World Answer :=
  fun world => ⟨.error failure, [], world⟩

def andThen (first : Probe World Answer) (next : Answer → Probe World Next) :
    Probe World Next :=
  fun world =>
    match first world with
    | ⟨.ok answer, touches, after⟩ =>
        let rest := next answer after
        ⟨rest.answer, Touch.append touches rest.touches, rest.world⟩
    | ⟨.error failure, touches, after⟩ => ⟨.error failure, touches, after⟩

instance : Monad (Probe World) where
  pure := done
  bind := andThen

def touch (what : Touch) : Probe World Unit :=
  fun world => ⟨.ok (), [what], world⟩

/-! ## Laws -/

private theorem pure_andThen (answer : Answer) (next : Answer → Probe World Next) :
    (pure answer >>= next) = next answer :=
  rfl

private theorem andThen_pure (probe : Probe World Answer) : (probe >>= pure) = probe := by
  funext world
  change andThen probe done world = probe world
  unfold andThen
  split
  · next answer touches after equal => simp [equal, done]
  · next failure touches after equal => simp [equal]

private theorem andThen_assoc {Last : Type} (probe : Probe World Answer)
    (next : Answer → Probe World Next) (last : Next → Probe World Last) :
    (probe >>= next >>= last) = (probe >>= fun answer => next answer >>= last) := by
  funext world
  change andThen (andThen probe next) last world =
    andThen probe (fun answer => andThen (next answer) last) world
  unfold andThen
  rcases probe world with ⟨answer | answer, touches, after⟩
  · rfl
  · dsimp only
    rcases next answer after with ⟨second | second, more, later⟩
    · rfl
    · simp

instance : LawfulMonad (Probe World) :=
  LawfulMonad.mk'
    (Probe World)
    (fun probe => andThen_pure probe)
    (fun answer next => pure_andThen answer next)
    (fun probe next last => andThen_assoc probe next last)

@[simp] theorem fail_bind (failure : Failure) (next : Answer → Probe World Next) :
    ((fail failure : Probe World Answer) >>= next) = fail failure :=
  rfl

theorem bind_of_ok {probe : Probe World Answer} {world after : World} {answer : Answer}
    {touches : List Touch} (ran : probe world = ⟨.ok answer, touches, after⟩)
    (next : Answer → Probe World Next) :
    (probe >>= next) world =
      ⟨(next answer after).answer, touches ++ (next answer after).touches,
        (next answer after).world⟩ := by
  change andThen probe next world = _
  simp only [andThen, ran, Touch.append_eq]

theorem bind_of_error {probe : Probe World Answer} {world after : World} {failure : Failure}
    {touches : List Touch} (ran : probe world = ⟨.error failure, touches, after⟩)
    (next : Answer → Probe World Next) :
    (probe >>= next) world = ⟨.error failure, touches, after⟩ := by
  change andThen probe next world = _
  simp only [andThen, ran]

theorem map_run (change : Answer → Next) (probe : Probe World Answer) (world : World) :
    (change <$> probe) world =
      ⟨(probe world).answer.map change, (probe world).touches, (probe world).world⟩ := by
  rw [map_eq_pure_bind]
  rcases ran : probe world with ⟨failure | answer, touches, after⟩
  · exact bind_of_error ran _
  · rw [bind_of_ok ran]
    change Outcome.mk _ (touches ++ []) _ = _
    rw [List.append_nil]
    rfl

theorem touch_bind (what : Touch) (rest : Probe World Answer) (world : World) :
    (do touch what; rest) world =
      ⟨(rest world).answer, what :: (rest world).touches, (rest world).world⟩ :=
  bind_of_ok rfl fun _ => rest

/-! ## Access to records -/

variable [Records World]

def askMember (record : Record) (name : String) : Probe World (Option Value) :=
  fun world =>
    let found := Records.member record name world
    ⟨.ok found.1, [.member record name], found.2⟩

def askCall (record : Record) (method : String) (arguments : List Value) :
    Probe World (Option Value) :=
  fun world =>
    let found := Records.call record method arguments world
    ⟨.ok found.1, [.call record method arguments], found.2⟩

def readMember (record : Record) (name : String) : Probe World Value := do
  match ← askMember record name with
  | some value => pure value
  | none => fail (.unknownMember name)

def callMethod (record : Record) (method : String) (arguments : List Value) :
    Probe World Value := do
  match ← askCall record method arguments with
  | some value => pure value
  | none => fail (.unknownMethod method)

end Probe

end Criteria

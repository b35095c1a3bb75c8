import Criteria.Console.Filter
import Criteria.Console.Line
import Criteria.Console.Report
import Criteria.Memo
import Criteria.Query
import Criteria.Sample.Checks
import Criteria.Sample.Gallery

/-!
A workbench: a place to build criteria, to try them on sample entities, and to watch what they do.

The bench keeps everything that outlives a single evaluation: the supply of identities, the sample
entities, which closures have been compiled, and what has been written to the console. Criteria,
entities, memos and closures are kept under names. An entity is alive as long as some name leads
to it.
-/

namespace Criteria

open Console Sample

/-- A console that is listening. Without a filter it shows everything. The times of queries may be
shown in a way of their own. -/
structure Screen where
  times : Times
  queryTimes : Times
  filter : Option Filter

structure Workbench where
  supply : Supply
  gallery : Gallery
  tags : List (Nat × List String)
  ready : ReadyClosures
  screen : Option Screen
  color : Bool
  output : String
  criteria : List (String × Criterion Gallery)
  entities : List (String × Record)
  memos : List (String × Memo Gallery)
  closures : List (String × Closure Gallery)

abbrev Work := StateM Workbench

namespace Workbench

def empty : Workbench :=
  ⟨⟨1⟩, .empty, [], .none, none, true, "", [], [], [], []⟩

def keep {Item : Type} (name : String) (item : Item) (table : List (String × Item)) :
    List (String × Item) :=
  (name, item) :: table.filter (·.1 != name)

def isAlive (bench : Workbench) (entity : Record) : Bool :=
  bench.entities.any (·.2 == entity)

/-- Only accesses to open records and runs of tagged checks leave a line. -/
def accessLines (bench : Workbench) : Touch → List String
  | .member record name => if bench.gallery.isOpen record then ["member " ++ name] else []
  | .call record method arguments =>
      if bench.gallery.isOpen record then
        ["call " ++ method ++ " " ++ toString arguments.length]
      else []
  | .test identity => ((bench.tags.lookup identity).getD []).map ("test " ++ ·)
  | .closure _ _ _ => []

end Workbench

namespace Work

def fresh {Item : Type} (make : Fresh Item) : Work Item :=
  fun bench =>
    let (item, supply) := make bench.supply
    (item, { bench with supply })

def enlist (shape : Shape) : Work Record :=
  fun bench =>
    let (record, gallery) := bench.gallery.add shape
    (record, { bench with gallery })

/-! ## Names -/

def keepCriterion (name : String) (criterion : Criterion Gallery) : Work Unit :=
  modify fun bench => { bench with criteria := Workbench.keep name criterion bench.criteria }

def keepEntity (name : String) (entity : Record) : Work Unit :=
  modify fun bench => { bench with entities := Workbench.keep name entity bench.entities }

def keepMemo (name : String) (memo : Memo Gallery) : Work Unit :=
  modify fun bench => { bench with memos := Workbench.keep name memo bench.memos }

def keepClosure (name : String) (closure : Closure Gallery) : Work Unit :=
  modify fun bench => { bench with closures := Workbench.keep name closure bench.closures }

def dropEntity (name : String) : Work Bool :=
  fun bench =>
    ((bench.entities.lookup name).isSome,
      { bench with entities := bench.entities.filter (·.1 != name) })

/-! ## Changes of open records -/

def setMember (entity : Record) (name : String) (value : Value) : Work Unit :=
  modify fun bench => { bench with gallery := bench.gallery.set entity name value }

def unsetMember (entity : Record) (name : String) : Work Bool :=
  fun bench =>
    let (existed, gallery) := bench.gallery.unset entity name
    (existed, { bench with gallery })

/-! ## Checks -/

def tag (identity : Nat) (tags : List String) : Work Unit :=
  modify fun bench => { bench with tags := (identity, tags) :: bench.tags }

def valueTest (check : Check ValueQuestion) : Work (ValueTest Gallery) := do
  let identity ← fresh Fresh.identity
  tag identity check.tags
  return ⟨identity, check.onValue⟩

def entityTest (check : Check EntityQuestion) : Work (EntityTest Gallery) := do
  let identity ← fresh Fresh.identity
  tag identity check.tags
  return ⟨identity, check.onEntity⟩

def tagCriterion (criterion : Criterion Gallery) (tags : List String) : Work Unit :=
  match criterion.body with
  | .test _ _ _ check => tag check.identity tags
  | .custom _ _ check => tag check.identity tags
  | _ => pure ()

def criterionOfCheck (path : Path) (operator : String) (operand : Option Value)
    (check : Check ValueQuestion) : Work (Criterion Gallery) := do
  let criterion ← fresh (Criterion.test path operator operand check.onValue)
  tagCriterion criterion check.tags
  return criterion

/-- A forgiving criterion takes a failure of its check for a refusal. -/
def forgive (probe : Probe Gallery Bool) : Probe Gallery Bool := do
  return match ← probe.attempt with
    | .ok verdict => verdict
    | .error _ => false

def criterionOfEntityCheck (label : String) (forgiving : Bool) (check : Check EntityQuestion) :
    Work (Criterion Gallery) := do
  let run (entity : Record) : Probe Gallery Bool :=
    if forgiving then forgive (check.onEntity entity) else check.onEntity entity
  let criterion ← fresh (Criterion.custom label run)
  tagCriterion criterion check.tags
  return criterion

/-! ## The console -/

def print (text : String) : Work Unit :=
  modify fun bench => { bench with output := bench.output ++ text }

def takeOutput : Work String :=
  fun bench => (bench.output, { bench with output := "" })

def showIn (times : Screen → Times) (notice : Notice) : Work Unit := do
  let bench ← get
  match bench.screen with
  | none => pure ()
  | some screen =>
      let admitted := match screen.filter with
        | some filter => filter.admits notice
        | none => true
      if admitted then print (notice.output (times screen) bench.color)

def announce (notice : Notice) : Work Unit :=
  showIn Screen.times notice

def settle (touches : List Touch) : Work Unit := do
  let (events, ready) := (← get).ready.note touches
  modify ({ · with ready })
  events.forM fun event => announce (.ofEvent event)

/-! ## Runs -/

def run {Answer : Type} (probe : Probe Gallery Answer) :
    Work (Except Failure Answer × List Touch) := do
  let outcome := probe (← get).gallery
  modify ({ · with gallery := outcome.world })
  settle outcome.touches
  return (outcome.answer, outcome.touches)

def query (criterion : Criterion Gallery) (entities : List Record) (parallel : Bool) :
    Work (Except Failure (List Record)) := do
  let search := if parallel then Query.parallelFilter criterion entities
    else Query.filter criterion entities
  let (answer, _) ← run search
  match answer with
  | .ok chosen =>
      let event := Query.report criterion entities chosen 0 parallel
      showIn Screen.queryTimes (.ofEvent event)
  | .error _ => pure ()
  return answer

def printTrace (criterion : Criterion Gallery) (mode : TraceMode) (entity : Record) :
    Work (Except Failure Bool) := do
  let (answer, _) ← run (criterion.trace mode entity)
  match answer with
  | .ok (result, trace) => print (report result trace (← get).color)
  | .error _ => pure ()
  return answer.map (·.1)

/-- Evaluates through a memo and keeps the memo under its name. Entities without a name may be
alive as well. -/
def consult (name : String) (memo : Memo Gallery) (alsoAlive : List Record) (entity : Record) :
    Work (Except Failure Bool × List Touch) := do
  let bench ← get
  let alive (other : Record) : Bool := alsoAlive.contains other || bench.isAlive other
  let outcome := memo.evaluate alive entity bench.gallery
  set { bench with gallery := outcome.outcome.world }
  keepMemo name outcome.memo
  announce (.ofEvent outcome.before)
  settle outcome.outcome.touches
  outcome.after.forM fun event => announce (.ofEvent event)
  return (outcome.outcome.answer, outcome.outcome.touches)

end Work

end Criteria

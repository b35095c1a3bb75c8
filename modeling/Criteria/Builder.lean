import Criteria.Criterion.Binary

/-!
A builder collects criteria from left to right and gives the result a name at the end.
-/

namespace Criteria

structure Builder (World : Type) where
  current : Option (Criterion World)
  name : Option String

namespace Builder

variable {World : Type}

def empty : Builder World := ⟨none, none⟩

def ofCriterion (criterion : Criterion World) : Builder World :=
  ⟨some criterion, none⟩

def isEmpty (builder : Builder World) : Bool :=
  builder.current.isNone

/-- An empty builder takes the first criterion over; `alone` says what becomes of it. -/
def extend (builder : Builder World) (connective : Connective)
    (alone : Criterion World → Fresh (Criterion World)) (criterion : Criterion World) :
    Fresh (Builder World) := do
  match builder.current with
  | some current => return ⟨some (← Criterion.combine connective current criterion), builder.name⟩
  | none => return ⟨some (← alone criterion), builder.name⟩

def and (builder : Builder World) (criterion : Criterion World) : Fresh (Builder World) :=
  builder.extend .and pure criterion

def or (builder : Builder World) (criterion : Criterion World) : Fresh (Builder World) :=
  builder.extend .or pure criterion

def andNot (builder : Builder World) (criterion : Criterion World) : Fresh (Builder World) :=
  builder.extend .andNot Criterion.negate criterion

def when (builder : Builder World) (condition : Bool)
    (steps : Builder World → Fresh (Builder World)) : Fresh (Builder World) :=
  if condition then steps builder else pure builder

def named (builder : Builder World) (name : String) : Builder World :=
  ⟨builder.current, some name⟩

def build (builder : Builder World) : Fresh (Except Refusal (Criterion World)) := do
  match builder.current, builder.name with
  | none, _ => return .error (.invalidArgument "builder has no specifications")
  | some criterion, none => return .ok criterion
  | some criterion, some name => return .ok (← criterion.named name)

end Builder

end Criteria

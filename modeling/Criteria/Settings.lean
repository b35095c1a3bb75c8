import Criteria.Memo
import Criteria.Text.Blank

/-!
Settings: how evaluations are traced, how many verdicts a memo keeps, and what the console shows.

Settings that are put together by hand may be invalid; those that are read from a document have
been checked.
-/

namespace Criteria

structure Settings where
  traceMode : TraceMode
  memoCapacity : Nat
  consoleFilter : Option String
  color : Bool
deriving DecidableEq

inductive SettingsFailure where
  | missing
  | unreadable
  | invalid (reason : String)

namespace SettingsFailure

def message? : SettingsFailure → Option String
  | .invalid reason => some ("Invalid configuration: " ++ reason)
  | _ => none

end SettingsFailure

namespace Settings

def standard : Settings :=
  ⟨.exhaustive, Memo.defaultCapacity, none, true⟩

def isBlankText (text : String) : Bool :=
  text.toList.all Text.isBlank

/-- A memo needs room for one verdict, and a filter must say something. Of two faults the first is
named. -/
def check (settings : Settings) : Except SettingsFailure Settings :=
  if settings.memoCapacity = 0 then
    .error (.invalid "memo.capacity must be greater than 0")
  else if settings.consoleFilter.any isBlankText then
    .error (.invalid "console.filter must not be blank")
  else .ok settings

def withTraceMode (settings : Settings) (mode : TraceMode) : Settings :=
  { settings with traceMode := mode }

def withMemoCapacity (settings : Settings) (capacity : Nat) : Settings :=
  { settings with memoCapacity := capacity }

def withConsoleFilter (settings : Settings) (filter : String) : Settings :=
  { settings with consoleFilter := some filter }

def withColor (settings : Settings) (color : Bool) : Settings :=
  { settings with color := color }

def ofDocument (read : String → Except SettingsFailure Settings) :
    Option String → Except SettingsFailure Settings
  | some text => read text
  | none => .error .missing

variable {World : Type}

def memo (settings : Settings) (criterion : Criterion World) : Memo World :=
  Memo.create criterion settings.memoCapacity

def trace [Records World] (settings : Settings) (criterion : Criterion World) (entity : Record) :
    Probe World (Bool × Trace) :=
  criterion.trace settings.traceMode entity

end Settings

end Criteria

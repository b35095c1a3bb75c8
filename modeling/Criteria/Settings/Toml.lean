import Criteria.Settings
import Criteria.Toml.Document

/-!
Settings from a TOML document. Each section is a table; what it leaves out has its usual value, and
unknown keys have no meaning. A section may also be a list, which gives its values in order.
-/

namespace Criteria

namespace Settings

open Toml

/-- The fields of a section, whose values have the given names if they come as a list. A point in
time is a section that holds nothing known. -/
def tomlSection (names : List String) : Option Item → Option Fields
  | none => some []
  | some (.table _ fields) => some fields
  | some (.tables earlier last) => some (names.zip (.table .header last :: earlier).reverse)
  | some (.array items) => some (names.zip items)
  | some .moment => some []
  | some _ => none

def tomlMode : Option Item → Option TraceMode
  | none => some standard.traceMode
  | some (.string name) => TraceMode.named? name
  | some (.table _ [(name, .array [])]) => TraceMode.named? name
  | some (.table _ [(name, .table _ [])]) => TraceMode.named? name
  | some _ => none

def tomlCapacity : Option Item → Option Nat
  | none => some standard.memoCapacity
  | some (.integer value) => if value < 0 then none else some value.toInt.toNat
  | some _ => none

def tomlFilter : Option Item → Option (Option String)
  | none => some standard.consoleFilter
  | some (.string text) => some (some text)
  | some _ => none

def tomlColor : Option Item → Option Bool
  | none => some standard.color
  | some (.boolean value) => some value
  | some _ => none

def ofTomlFields (fields : Fields) : Option Settings := do
  let trace ← tomlSection ["mode"] (fields.lookup "trace")
  let memo ← tomlSection ["capacity"] (fields.lookup "memo")
  let console ← tomlSection ["filter", "color"] (fields.lookup "console")
  return ⟨← tomlMode (trace.lookup "mode"), ← tomlCapacity (memo.lookup "capacity"),
    ← tomlFilter (console.lookup "filter"), ← tomlColor (console.lookup "color")⟩

def ofToml (text : String) : Except SettingsFailure Settings :=
  match (Toml.read text).bind ofTomlFields with
  | some settings => settings.check
  | none => .error .unreadable

end Settings

end Criteria

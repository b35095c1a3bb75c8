import Criteria.Number.Radix
import Criteria.Settings
import Criteria.Yaml.Document

/-!
Settings from a YAML document. Each section is a mapping; what it leaves out has its usual value,
and unknown keys have no meaning, but a known key may not be repeated. A document or a section that
holds nothing gives the usual values.
-/

namespace Criteria

namespace Settings

open Yaml

abbrev YamlFields := List (String × Node)

def yamlKey (document : Document) : Node × Node → Option (String × Node)
  | (key, value) =>
      match document.resolve key with
      | .scalar _ _ name => some (name, value)
      | _ => none

def yamlSection (document : Document) : Node → Option YamlFields
  | .mapping entries => entries.mapM (yamlKey document)
  | .scalar .plain _ "" => some []
  | _ => none

def yamlField (document : Document) (fields : YamlFields) (name : String) :
    Option (Option Node) :=
  match fields.filter (·.1 == name) with
  | [] => some none
  | [(_, value)] => some (some (document.resolve value))
  | _ => none

def isNull (text : String) : Bool :=
  ["null", "Null", "NULL", "~"].contains text

/-- A private tag names a mode, and then nothing else may be given. -/
def yamlMode : Option Node → Option TraceMode
  | none => some standard.traceMode
  | some (.scalar style tag text) =>
      match tag.bind Tag.privateName? with
      | some name =>
          if style = .plain ∧ (text.isEmpty ∨ isNull text) then TraceMode.named? name else none
      | none => TraceMode.named? text
  | some _ => none

/-- A number or a truth value is plain, or a block that keeps its lines and has the tag for such
values. -/
def isWritten (expected : Tag) (style : ScalarStyle) (tag : Option Tag) : Bool :=
  match style with
  | .plain => true
  | .literal => tag == some expected
  | .other => false

/-- A number without quotes, perhaps with a plus sign. Decimal digits have no leading zero; other
radices are marked by a letter after a zero. -/
def yamlUnsigned (characters : List Char) : Option Nat :=
  let digits := match characters with
    | '+' :: rest => rest
    | rest => rest
  match digits with
  | '0' :: 'x' :: rest => Number.readDigits 16 rest
  | '0' :: 'o' :: rest => Number.readDigits 8 rest
  | '0' :: 'b' :: rest => Number.readDigits 2 rest
  | '0' :: _ :: _ => none
  | _ => Number.readDigits 10 digits

def largestCapacity : Nat := 0xffffffffffffffff

def yamlCapacity : Option Node → Option Nat
  | none => some standard.memoCapacity
  | some (.scalar style tag text) =>
      if isWritten Tag.integer style tag then
        (yamlUnsigned text.toList).filter (· ≤ largestCapacity)
      else none
  | some _ => none

/-- Any scalar is a text, except for the ways to write nothing at all. A tag tells a plain scalar
to be the one or the other. -/
def yamlFilter : Option Node → Option (Option String)
  | none => some standard.consoleFilter
  | some (.scalar .plain none text) =>
      some (if text.isEmpty || isNull text then none else some text)
  | some (.scalar .plain (some tag) text) =>
      if tag = Tag.null then if isNull text then some none else none else some (some text)
  | some (.scalar _ _ text) => some (some text)
  | some _ => none

def yamlColor : Option Node → Option Bool
  | none => some standard.color
  | some (.scalar style tag text) =>
      if !isWritten Tag.boolean style tag then none
      else if ["true", "True", "TRUE"].contains text then some true
      else if ["false", "False", "FALSE"].contains text then some false
      else none
  | some _ => none

def ofYamlDocument (document : Document) : Option Settings := do
  let fields ← yamlSection document document.root
  let section? (name : String) : Option YamlFields := do
    match ← yamlField document fields name with
    | some node => yamlSection document node
    | none => return []
  let trace ← section? "trace"
  let memo ← section? "memo"
  let console ← section? "console"
  return ⟨← yamlMode (← yamlField document trace "mode"),
    ← yamlCapacity (← yamlField document memo "capacity"),
    ← yamlFilter (← yamlField document console "filter"),
    ← yamlColor (← yamlField document console "color")⟩

def ofYaml (text : String) : Except SettingsFailure Settings :=
  let read :=
    match Yaml.read text with
    | .malformed => none
    | .nothing => some standard
    | .document document => ofYamlDocument document
  match read with
  | some settings => settings.check
  | none => .error .unreadable

end Settings

end Criteria

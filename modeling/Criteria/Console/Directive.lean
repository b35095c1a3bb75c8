import Criteria.Console.Notice
import Criteria.Pattern
import Criteria.Number.FloatReading
import Criteria.Text.Blank

/-!
Directives: a directive admits notices up to a level.

A directive is written as a level, for all notices, or as the start of a target, perhaps with a
span and fields in brackets, and perhaps with a level; without one it admits every level. It speaks
of the notices whose target begins as it says and which have room for its fields. No notice is given
inside of a span, and the value of a field is only looked at on a span, so a directive that asks for
a span or for a value speaks of no notice.

Blanks around a directive have no meaning to those who look for its parts; but the parts are cut
from the text as it was given, at positions that were counted without the blanks.
-/

namespace Criteria.Console

structure FieldTest where
  name : String
  asksValue : Bool
deriving DecidableEq

/-! `limit` is the highest rank of level that is admitted; zero admits nothing. -/

structure Directive where
  target : Option String
  span : Option String
  fields : List FieldTest
  limit : Nat
deriving DecidableEq

def levelLimit? (characters : List Char) : Option Nat :=
  let digits := match characters with
    | '+' :: rest => rest
    | rest => rest
  if !digits.isEmpty && digits.all Char.isDigit then
    match digits.dropWhile (· == '0') with
    | [] => some 0
    | ['1'] => some Level.error.rank
    | ['2'] => some Level.warn.rank
    | ['3'] => some Level.info.rank
    | ['4'] => some Level.debug.rank
    | ['5'] => some Level.trace.rank
    | _ => none
  else if String.ofList (characters.map Char.toLower) == "off" then some 0
  else (Level.named? (String.ofList (characters.map Char.toLower))).map Level.rank

example : levelLimit? ['D', 'e', 'b', 'u', 'g'] = some 4 := by decide +kernel

namespace Directive

def everything : Directive := ⟨none, none, [], Level.trace.rank⟩

def forLevel (limit : Nat) : Directive := { everything with limit }

def forTarget (target : String) (limit : Nat) : Directive :=
  { everything with target := some target, limit }

def speaksOf (directive : Directive) (notice : Notice) : Bool :=
  directive.span.isNone &&
    (directive.target.getD "").toList.isPrefixOf notice.target.toList &&
      directive.fields.all fun test => !test.asksValue && notice.slots.contains test.name

/-- Longer targets are more specific, and then more fields. -/
def isLessSpecific (first second : Directive) : Bool :=
  let length (directive : Directive) : Nat :=
    (directive.target.map (·.utf8ByteSize + 1)).getD 0
  let names (directive : Directive) : List String := directive.fields.map FieldTest.name
  if length first ≠ length second then length first < length second
  else if first.fields.length ≠ second.fields.length then
    first.fields.length < second.fields.length
  else decide (names first < names second)

end Directive

/-! ## Reading directives -/

inductive DirectivePart where
  | nothing
  | levelOrTarget
  | span (start : Nat)
  | field (start : Nat)
  | fieldsEnd
  | spanEnd
  | level (start : Nat)
  | everything

def cut (start stop : Nat) : List Char → List Char
  | [] => []
  | character :: rest =>
      let size := character.utf8Size
      let kept := cut (start - size) (stop - size) rest
      if start = 0 ∧ 0 < stop then character :: kept else kept

structure DirectiveReading where
  part : DirectivePart
  directive : Directive

namespace DirectiveReading

def start : DirectiveReading := ⟨.nothing, .everything⟩

def readLevelOrTarget (text : List Char) (directive : Directive) : Directive :=
  match levelLimit? text with
  | some limit => { directive with limit, target := none }
  | none => { directive with target := some (String.ofList text) }

/-- No level at all stands for the most verbose one. -/
def readLevel (text : List Char) (directive : Directive) : Option Directive :=
  if text.isEmpty then some directive
  else (levelLimit? text).map fun limit => { directive with limit }

/-- The value of a field is a number or a pattern, and what follows a second equals sign has no
meaning. -/
def readTest (text : List Char) : Option FieldTest :=
  let name := String.ofList (text.takeWhile (· ≠ '='))
  match text.dropWhile (· ≠ '=') with
  | [] => if text.isEmpty then none else some ⟨name, false⟩
  | _ :: rest =>
      let value := rest.takeWhile (· ≠ '=')
      if (Number.readFloat value).isSome || Pattern.isPattern value then some ⟨name, true⟩ else none

def readField (text : List Char) (directive : Directive) : Option Directive :=
  (readTest text).map fun test => { directive with fields := directive.fields ++ [test] }

def mayStart (character : Char) : Bool :=
  character == '-' || character == ':' || character == '_' || Text.isAlphanumeric character

def step (text : List Char) (reading : DirectiveReading) (position : Nat) (character : Char) :
    Option DirectiveReading :=
  let directive := reading.directive
  let since (start : Nat) := cut start position text
  let next := position + 1
  match reading.part, character with
  | .nothing, '[' => some ⟨.span next, directive⟩
  | .nothing, _ =>
      if mayStart character then some ⟨.levelOrTarget, directive⟩ else none
  | .levelOrTarget, '=' =>
      some ⟨.level next, { directive with target := some (String.ofList (since 0)) }⟩
  | .levelOrTarget, '[' =>
      some ⟨.span next, { directive with target := some (String.ofList (since 0)) }⟩
  | .levelOrTarget, ',' => some ⟨.everything, readLevelOrTarget text directive⟩
  | .span start, ']' =>
      some ⟨.spanEnd, { directive with span := some (String.ofList (since start)) }⟩
  | .span start, '\x7b' =>
      let name := since start
      let span := if name.isEmpty then none else some (String.ofList name)
      some ⟨.field next, { directive with span }⟩
  | .field start, '\x7d' => (readField (since start) directive).map (⟨.fieldsEnd, ·⟩)
  | .field start, ',' => (readField (since start) directive).map (⟨.field next, ·⟩)
  | .fieldsEnd, ']' => some ⟨.spanEnd, directive⟩
  | .fieldsEnd, _ => none
  | .spanEnd, '=' => some ⟨.level next, directive⟩
  | .spanEnd, _ => none
  | .level start, ',' => (readLevel (since start) directive).map (⟨.everything, ·⟩)
  | .everything, _ => none
  | _, _ => some reading

def run (text : List Char) (reading : DirectiveReading) (position : Nat) :
    List Char → Option DirectiveReading
  | [] => some reading
  | character :: rest =>
      match reading.step text position character with
      | some reading => run text reading (position + character.utf8Size) rest
      | none => none

def finish? (text : List Char) (reading : DirectiveReading) : Option Directive :=
  let directive := reading.directive
  match reading.part with
  | .levelOrTarget => some (readLevelOrTarget text directive)
  | .level start => readLevel (cut start (String.ofList text).utf8ByteSize text) directive
  | .spanEnd | .everything => some directive
  | .nothing | .span _ | .field _ | .fieldsEnd => none

end DirectiveReading

def Directive.parse? (text : String) : Option Directive :=
  let characters := text.toList
  (DirectiveReading.start.run characters 0 (Text.trim characters)).bind (·.finish? characters)

end Criteria.Console

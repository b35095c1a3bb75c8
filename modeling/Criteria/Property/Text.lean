import Criteria.Property
import Criteria.Text.Blank
import Criteria.Text.LowerCase

/-!
Tests of text. A missing value never matches, except that it counts as blank; any other value that
is no text is a failure.
-/

namespace Criteria

namespace Property

variable {World : Type}

def matchText (operator : String) (accepts : String → Bool) : Value → Except Failure Bool
  | .none => .ok false
  | .string text => .ok (accepts text)
  | other => .error (mismatch operator "string" other)

def textTest (property : Property) (operator operand : String)
    (accepts : String → Bool) : Fresh (Criterion World) :=
  property.test operator (some (.string operand)) (matchText operator accepts)

def occursIn (needle : List Char) : List Char → Bool
  | [] => needle.isEmpty
  | character :: rest =>
      needle.isPrefixOf (character :: rest) || occursIn needle rest

def startsWith (property : Property) (start : String) : Fresh (Criterion World) :=
  property.textTest "starts_with" start fun text => start.toList.isPrefixOf text.toList

def endsWith (property : Property) (finish : String) : Fresh (Criterion World) :=
  property.textTest "ends_with" finish fun text =>
    finish.toList.reverse.isPrefixOf text.toList.reverse

def containsText (property : Property) (needle : String) : Fresh (Criterion World) :=
  property.textTest "contains" needle fun text => occursIn needle.toList text.toList

def eqIgnoreCase (property : Property) (expected : String) : Fresh (Criterion World) :=
  property.textTest "eq_ignore_case" expected fun text =>
    Text.toLower text == Text.toLower expected

def blank : Value → Except Failure Bool
  | .none => .ok true
  | .string text => .ok (text.toList.all Text.isBlank)
  | other => .error (mismatch "is blank" "string" other)

def isBlank (property : Property) : Fresh (Criterion World) :=
  property.test "is blank" none blank

end Property

end Criteria

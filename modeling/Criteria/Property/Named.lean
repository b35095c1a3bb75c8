import Criteria.Property.Collection
import Criteria.Property.Temporal
import Criteria.Property.Text

/-!
The tests of a property by name, for criteria that come from a description. The arguments are
values; a test of the wrong name or with the wrong arguments does not exist.
-/

namespace Criteria

namespace Comparison

def named? : String → Option Comparison
  | "eq" => some .eq
  | "ne" => some .ne
  | "lt" => some .lt
  | "le" => some .le
  | "gt" => some .gt
  | "ge" => some .ge
  | _ => none

end Comparison

namespace Property

variable {World : Type}

def textTestNamed? (property : Property) (text : String) : String → Option (Fresh (Criterion World))
  | "starts_with" => some (property.startsWith text)
  | "ends_with" => some (property.endsWith text)
  | "contains_text" => some (property.containsText text)
  | "eq_ignore_case" => some (property.eqIgnoreCase text)
  | _ => none

def plainTestNamed? (property : Property) : String → Option (Fresh (Criterion World))
  | "is_none" => some property.isNone
  | "is_some" => some property.isSome
  | "is_true" => some property.isTrue
  | "is_false" => some property.isFalse
  | "is_blank" => some property.isBlank
  | "is_empty" => some property.isEmpty
  | "not_empty" => some property.notEmpty
  | _ => none

def boundTestNamed? (property : Property) (bound : Value) (name : String) :
    Option (Fresh (Criterion World)) :=
  match name, Comparison.named? name with
  | "contains", _ => some (property.contains bound)
  | "before", _ => some (property.before bound)
  | "after", _ => some (property.after bound)
  | _, some comparison => some (property.compare comparison bound)
  | _, none => none

def testNamed? (property : Property) (name : String) (arguments : List Value) :
    Option (Fresh (Criterion World)) :=
  match name, arguments with
  | "one_of", [.list candidates] => some (property.oneOf candidates)
  | "between", [low, high] => some (property.between low high)
  | "within", [start, finish] => some (property.within start finish)
  | _, [] => property.plainTestNamed? name
  | _, [.string text] =>
      (property.textTestNamed? text name).or (property.boundTestNamed? (.string text) name)
  | _, [bound] => property.boundTestNamed? bound name
  | _, _ => none

end Property

end Criteria

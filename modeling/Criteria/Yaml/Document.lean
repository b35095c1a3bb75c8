import Criteria.Yaml.Growth
import Criteria.Yaml.Layout

/-!
YAML documents. A text holds a single one, perhaps after directives, or none at all.
-/

namespace Criteria.Yaml

inductive Content where
  | malformed
  | nothing
  | document (document : Document)

def isKnownVersion (major minor : Nat) : Bool :=
  major == 1 && (minor == 1 || minor == 2)

/-- The handles that directives define, each only once, and what comes after the directives. There
may be one version directive. -/
def readDirectives (handles : TagHandles) (hasVersion : Bool) :
    List Token → Option (TagHandles × List Token)
  | .version major minor :: rest =>
      if hasVersion || !isKnownVersion major minor then none
      else readDirectives handles true rest
  | .tagHandle handle lead :: rest =>
      if (handles.lookup handle).isSome then none
      else readDirectives ((handle, lead) :: handles) hasVersion rest
  | tokens => some (handles, tokens)

def isEmptyDocument : List Token → Bool
  | [] | .version _ _ :: _ | .tagHandle _ _ :: _ | .documentStart :: _ | .documentEnd :: _ => true
  | _ => false

def announcedDocument (tokens : List Token) : Option (Document × List Token) :=
  match readDirectives [] false tokens with
  | some (handles, .documentStart :: rest) =>
      if isEmptyDocument rest then some (⟨.empty, .none⟩, rest) else growNode handles rest
  | _ => none

def document (tokens : List Token) : Option (Document × List Token) :=
  match tokens with
  | .version _ _ :: _ | .tagHandle _ _ :: _ | .documentStart :: _ => announcedDocument tokens
  | _ => growNode [] tokens

def isFinished (tokens : List Token) : Bool :=
  tokens.all (· == .documentEnd)

def read (text : String) : Content :=
  let characters := text.toList
  if !characters.all isAllowed then .malformed
  else
    match tokens (joinLineEnds [] characters) with
    | none => .malformed
    | some [] => .nothing
    | some tokens =>
        match document tokens with
        | some (document, rest) => if isFinished rest then .document document else .malformed
        | none => .malformed

end Criteria.Yaml

import Criteria.Console.Directive

/-!
Filters choose which notices are seen.

A filter is a list of directives. Of the directives that speak of a notice the most specific one
decides whether it is seen, and a notice that none speaks of is not seen.
-/

namespace Criteria.Console

abbrev Filter := List Directive

namespace Filter

def standard : Directive := .forTarget "specforge" Level.info.rank

def piecesOf : List Char → List (List Char)
  | [] => [[]]
  | ',' :: rest => [] :: piecesOf rest
  | character :: rest =>
      match piecesOf rest with
      | piece :: pieces => (character :: piece) :: pieces
      | [] => [[character]]

def parseAll (text : String) : Filter :=
  (piecesOf text.toList).filterMap fun piece => Directive.parse? (String.ofList piece)

/-- A filter from the environment, if it says anything, and otherwise the configured one. -/
def choose (configured : Option String) (environment : Option String) : Filter :=
  match parseAll (environment.getD "") with
  | [] => [((configured.bind Directive.parse?).getD standard)]
  | directives => directives

/-- Of equally specific directives the last one decides. -/
def decisive? (filter : Filter) (notice : Notice) : Option Directive :=
  (filter.filter (·.speaksOf notice)).foldl
    (fun best directive =>
      match best with
      | some current => if directive.isLessSpecific current then some current else some directive
      | none => some directive)
    none

def admits (filter : Filter) (notice : Notice) : Bool :=
  match filter.decisive? notice with
  | some directive => notice.level.rank ≤ directive.limit
  | none => false

end Filter

end Criteria.Console

import Criteria.Console.Notice
import Criteria.Console.Style
import Criteria.Number.FloatText

/-!
Console lines. Every known event has one line, which starts with the time; unknown events have
none.
-/

namespace Criteria.Console

structure Times where
  stamp : String
  duration : Nat → String

def durationText (milliseconds : Nat) : String :=
  if milliseconds < 1000 then toString milliseconds ++ "ms"
  else if milliseconds < 60000 then
    String.ofList (Number.fixedPlaces 2 (milliseconds.toFloat / 1000.0)) ++ "s"
  else
    toString (milliseconds / 60000) ++ "m " ++ toString (milliseconds % 60000 / 1000) ++ "s"

def padLeft (width : Nat) (text : String) : String :=
  String.ofList (List.replicate (width - text.length) ' ') ++ text

def stampText (milliseconds : Nat) : String :=
  padLeft 7 (String.ofList (Number.fixedPlaces 3 (milliseconds.toFloat / 1000.0))) ++ "s"

namespace Times

def atMillisecond (milliseconds : Nat) : Times :=
  ⟨stampText milliseconds, durationText⟩

end Times

namespace Summary

def countText (color : Bool) (count : Option Nat) : String :=
  paint color .brightYellow (Number.grouped (count.getD 0))

def materializedText (color : Bool) (summary : Summary) : String :=
  paintBold color .brightCyan "⚙" ++ " Compiled │ " ++ countText color summary.nodes ++
    " nodes │ " ++ summary.criterion.getD "?"

def queryText (times : Times) (color : Bool) (summary : Summary) : String :=
  paintBold color .brightGreen "■" ++ " Query (" ++
    (if summary.parallel.getD false then "parallel" else "sequential") ++ ") │ " ++
    countText color summary.matched ++ " of " ++ countText color summary.items ++
    " matched │ " ++ times.duration (summary.milliseconds.getD 0) ++
    match summary.criterion with
    | some criterion => " │ " ++ criterion
    | none => ""

def memoMark (color : Bool) : Option Bool → String
  | some result => verdictMark color result
  | none => "·"

def memoText (color : Bool) (summary : Summary) (what : String) : String :=
  memoMark color summary.result ++ " Memo " ++ what

def pressureText (color : Bool) (detail : String) : String :=
  paintBold color .yellow "!" ++ " Memo " ++ detail

/-- The line without its time, if the event has one. Look-ups in a memo are shown only at the most
verbose level. -/
def content? (times : Times) (color : Bool) (level : Level) (summary : Summary) :
    Option String :=
  match summary.event.getD "" with
  | "materialize" => some (summary.materializedText color)
  | "query_end" => some (summary.queryText times color)
  | "memo_hit" => if level = .trace then some (summary.memoText color "hit") else none
  | "memo_miss" => if level = .trace then some (summary.memoText color "miss") else none
  | "memo_purge" =>
      some (pressureText color
        ("purged " ++ countText color summary.purged ++ " dead entries"))
  | "memo_full" =>
      some (pressureText color
        ("full at " ++ countText color summary.capacity ++ " entries, result not cached"))
  | _ => none

def line (times : Times) (color : Bool) (level : Level) (summary : Summary) : String :=
  match summary.content? times color level with
  | some content => paint color .brightBlack times.stamp ++ " " ++ content
  | none => ""

end Summary

def targetFamily : String := "specforge"

def Notice.output (times : Times) (color : Bool) (notice : Notice) : String :=
  if targetFamily.toList.isPrefixOf notice.target.toList then
    let line := (Summary.ofFields notice.fields).line times color notice.level
    if line.isEmpty then "" else line ++ "\n"
  else ""

end Criteria.Console

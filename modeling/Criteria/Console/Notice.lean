import Criteria.Event

/-!
Notices: what reaches the console, as a target, a level and named fields.

A field is handed over in one of several ways, and the way matters: a text arrives as it is, but
anything shown through its debugging form loses the double quotes at its ends.
-/

namespace Criteria.Console

inductive Level where
  | error
  | warn
  | info
  | debug
  | trace
deriving DecidableEq

def Level.rank : Level → Nat
  | .error => 1
  | .warn => 2
  | .info => 3
  | .debug => 4
  | .trace => 5

def Level.named? : String → Option Level
  | "error" => some .error
  | "warn" => some .warn
  | "info" => some .info
  | "debug" => some .debug
  | "trace" => some .trace
  | _ => none

inductive FieldValue where
  | text (text : String)
  | shown (form : String)
  | natural (value : Nat)
  | integer (value : Int)
  | flag (value : Bool)

/-- A notice may have room for more fields than it carries. -/
structure Notice where
  target : String
  level : Level
  fields : List (String × FieldValue)
  slots : List String

/-! ## Notices of events -/

namespace Notice

def exact (target : String) (level : Level) (fields : List (String × FieldValue)) : Notice :=
  ⟨target, level, fields, "message" :: fields.map (·.1)⟩

def general (target : String) (level : Level) (fields : List (String × FieldValue)) : Notice :=
  ⟨target, level, fields,
    ["event", "spec", "message", "nodes", "items", "matched", "purged", "capacity", "duration_ms",
      "result", "parallel", "other"]⟩

def ofEvent : Event → Notice
  | .materialized nodes criterion =>
      .exact "specforge_core::spec" .debug
        [("event", .text "materialize"), ("nodes", .natural nodes), ("spec", .shown criterion)]
  | .queryEnded items matched milliseconds parallel criterion =>
      .exact "specforge::query" .debug
        [("event", .text "query_end"), ("items", .natural items), ("matched", .natural matched),
          ("duration_ms", .natural milliseconds), ("parallel", .flag parallel),
          ("spec", .shown criterion)]
  | .memoHit result =>
      .exact "specforge_core::memo" .trace
        [("event", .text "memo_hit"), ("result", .flag result)]
  | .memoMissed => .exact "specforge_core::memo" .trace [("event", .text "memo_miss")]
  | .memoPurged purged =>
      .exact "specforge_core::memo" .trace
        [("event", .text "memo_purge"), ("purged", .natural purged)]
  | .memoFull capacity =>
      .exact "specforge_core::memo" .trace
        [("event", .text "memo_full"), ("capacity", .natural capacity)]

end Notice

/-! ## What a console takes from a notice -/

structure Summary where
  event : Option String
  criterion : Option String
  nodes : Option Nat
  items : Option Nat
  matched : Option Nat
  purged : Option Nat
  capacity : Option Nat
  milliseconds : Option Nat
  result : Option Bool
  parallel : Option Bool

namespace Summary

def empty : Summary :=
  ⟨none, none, none, none, none, none, none, none, none, none⟩

def withText (summary : Summary) (name text : String) : Summary :=
  match name with
  | "event" => { summary with event := some text }
  | "spec" => { summary with criterion := some text }
  | _ => summary

def withNatural (summary : Summary) (name : String) (value : Nat) : Summary :=
  match name with
  | "nodes" => { summary with nodes := some value }
  | "items" => { summary with items := some value }
  | "matched" => { summary with matched := some value }
  | "purged" => { summary with purged := some value }
  | "capacity" => { summary with capacity := some value }
  | "duration_ms" => { summary with milliseconds := some value }
  | _ => summary

def withFlag (summary : Summary) (name : String) (value : Bool) : Summary :=
  match name with
  | "result" => { summary with result := some value }
  | "parallel" => { summary with parallel := some value }
  | _ => summary

def unquoted (form : String) : String :=
  let withoutStart := form.toList.dropWhile (· == '"')
  String.ofList (withoutStart.reverse.dropWhile (· == '"')).reverse

def withField (summary : Summary) (field : String × FieldValue) : Summary :=
  match field.2 with
  | .text text => summary.withText field.1 text
  | .shown form => summary.withText field.1 (unquoted form)
  | .natural value => summary.withNatural field.1 value
  | .integer value => summary.withNatural field.1 value.toNat
  | .flag value => summary.withFlag field.1 value

def ofFields (fields : List (String × FieldValue)) : Summary :=
  fields.foldl withField empty

end Summary

end Criteria.Console

import Criteria.Term.Evaluation
import Criteria.Term.Text

/-!
Evaluation with a record of every condition.

`AND`, `OR` and `NOT` are walked; every other term is evaluated as a unit and leaves one entry. A
failure discards the record.
-/

namespace Criteria

/-- An exhaustive trace evaluates both operands of `AND` and `OR`, whatever the left one gives, and
so lists every condition. A short-circuit trace evaluates what plain evaluation does. -/
inductive TraceMode where
  | exhaustive
  | shortCircuit
deriving DecidableEq

def TraceMode.named? : String → Option TraceMode
  | "exhaustive" => some .exhaustive
  | "short_circuit" => some .shortCircuit
  | _ => none

def TraceMode.inspect : TraceMode → String
  | .exhaustive => "Exhaustive"
  | .shortCircuit => "ShortCircuit"

structure TraceEntry where
  condition : String
  passed : Bool
deriving DecidableEq

namespace TraceEntry

def line (entry : TraceEntry) : String :=
  (if entry.passed then "[PASS] " else "[FAIL] ") ++ entry.condition ++ "\n"

end TraceEntry

abbrev Trace := List TraceEntry

namespace Trace

def passed (trace : Trace) : List TraceEntry :=
  trace.filter (·.passed)

def failed (trace : Trace) : List TraceEntry :=
  trace.filter (!·.passed)

def text (trace : Trace) : String :=
  String.join (trace.map TraceEntry.line)

end Trace

namespace Term

variable {World : Type} [Records World]

def trace (scope : Scope) (mode : TraceMode) : Term World → Probe World (Bool × Trace)
  | .and left right => do
      let (leftHolds, leftTrace) ← left.trace scope mode
      if !leftHolds && mode == .shortCircuit then return (false, leftTrace)
      else
        let (rightHolds, rightTrace) ← right.trace scope mode
        return (leftHolds && rightHolds, leftTrace ++ rightTrace)
  | .or left right => do
      let (leftHolds, leftTrace) ← left.trace scope mode
      if leftHolds && mode == .shortCircuit then return (true, leftTrace)
      else
        let (rightHolds, rightTrace) ← right.trace scope mode
        return (leftHolds || rightHolds, leftTrace ++ rightTrace)
  | .not operand => do
      let (holds, entries) ← operand.trace scope mode
      return (!holds, entries)
  | unit => do
      let passed ← unit.holds scope
      return (passed, [⟨unit.explain, passed⟩])

end Term

end Criteria

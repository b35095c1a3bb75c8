import Criteria.Console.Style
import Criteria.Term.Trace

/-!
A trace as a report: one line for each condition, and a summary line.
-/

namespace Criteria.Console

def entryLine (color : Bool) (entry : TraceEntry) : String :=
  "  " ++ verdictMark color entry.passed ++ " " ++ entry.condition ++ "\n"

def status (color result : Bool) : String :=
  if result then paintBold color .brightGreen "PASSED"
  else paintBold color .brightRed "FAILED"

def report (result : Bool) (trace : Trace) (color : Bool) : String :=
  String.join (trace.map (entryLine color)) ++ status color result ++ " │ " ++
    toString trace.passed.length ++ " passed │ " ++ toString trace.failed.length ++ " failed\n"

end Criteria.Console

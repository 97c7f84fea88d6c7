import RemoteQuery.Text.Quoted
import RemoteQuery.Number.Integer

namespace RemoteQuery

inductive Fault where
  /-- The service did not accept the query. -/
  | submission (message : String)
  /-- The service failed for now. -/
  | transient (message : String)
  /-- The query has failed for good. A query that was never accepted has no id. -/
  | terminal (queryId : Option String) (message : String)
  /-- The caller asked for the query's end. -/
  | cancelled (queryId : String)
  /-- A cell does not have the form that its column asks for. -/
  | conversion (ordinal : Nat) (wireType raw reason : String)
  /-- The engine was asked for something that its state does not allow. -/
  | usage (message : String)
  | configuration (message : String)
  /-- A result file could not be read. -/
  | resultFile (message : String)
  /-- A sum of durations is longer than any duration, and whatever asked for it breaks off. -/
  | overflow
deriving Repr, DecidableEq, Inhabited

namespace Fault

def isCancelled : Fault → Bool
  | .cancelled _ => true
  | _ => false

/-- An end that comes of the time at which it comes, and not of what the service answers. -/
def isUntimely : Fault → Bool
  | .overflow => true
  | fault => fault.isCancelled

def message : Fault → String
  | .submission message => "Submission error: " ++ message
  | .transient message => "Transient service error: " ++ message
  | .terminal queryId message => "Query " ++ queryId.getD "<unsubmitted>" ++ " failed: " ++ message
  | .cancelled queryId => "Query " ++ queryId ++ " was cancelled"
  | .conversion ordinal wireType raw reason =>
      "Conversion error in column " ++ Number.text ordinal ++ " (" ++ wireType ++
        ") for value " ++ Text.quoted raw ++ ": " ++ reason
  | .usage message => "Usage error: " ++ message
  | .configuration message => "Configuration error: " ++ message
  | .resultFile message => "CSV error: " ++ message
  | .overflow => "overflow when adding durations"

end Fault

end RemoteQuery

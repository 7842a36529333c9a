import PanelForms.Backend.Retry

/-!
# Outcomes of poll responses

A response to a run request tells by its `state` how far the run is.

Main definitions:

- `Poll.Outcome`: the three states of a run that is going well.
- `Poll.Fault`: how a run ends badly.
- `Poll.classify`: the outcome of a response.
-/

namespace PanelForms
namespace Poll

/-- How a chain of polls ends badly. -/
inductive Fault where
  | unexpectedState (state : String)
  | malformedResponse (response : Json)
  | backendError (text : String)
  | backendCanceled
  | simulationMissing
  | transport (attempts : Nat) (source : ApiError)
  | cancelled
  deriving DecidableEq

namespace Fault

/-- What is reported. -/
def message : Fault → String
  | .unexpectedState state => "unexpected report state " ++ Text.quoted state
  | .malformedResponse response => "report response has no state: " ++ response.text
  | .backendError text => "report failed: " ++ text
  | .backendCanceled => "report computation was canceled"
  | .simulationMissing => "simulation is missing on the backend"
  | .transport attempts source => (RetryError.failed attempts source).message
  | .cancelled => "polling was cancelled"

/-- The messages of the errors below this one. -/
def causes : Fault → List String
  | .transport _ source => [source.message]
  | _ => []

/-- The fault of a call that was given up. -/
def ofRetry : RetryError → Fault
  | .stopped => .cancelled
  | .failed attempts source => .transport attempts source

end Fault

/-- How far a run is: queued, going on with data to show, or done. -/
inductive Outcome where
  | pending
  | running (data : Json)
  | completed (data : Json)
  deriving DecidableEq

/-- The outcome that a response reports. -/
def classify (response : Json) : Except Fault Outcome :=
  match (response.member? "state").bind Json.string? with
  | none => .error (.malformedResponse response)
  | some "pending" => .ok .pending
  | some "running" => .ok (.running response)
  | some "completed" => .ok (.completed response)
  | some "error" =>
    .error (.backendError (((response.member? "error").bind Json.string?).getD "unknown error"))
  | some "canceled" => .error .backendCanceled
  | some "missing" => .error .simulationMissing
  | some state => .error (.unexpectedState state)

end Poll
end PanelForms

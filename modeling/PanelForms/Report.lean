import PanelForms.Poll.Poller
import PanelForms.Session.Basic

/-!
# Auto-run reports

A report is computed again whenever the committed values it depends on have changed.  It depends
on references of its own and on the fields of its form.

Main definitions:

- `Report.watched`: the references a report depends on, each one once.
- `Report.observe`: start a new chain if the values have changed.
- `Report.stop`: stop the chain and forget the values.
- `Report.ofView`: the reports of a view.
-/

namespace PanelForms

/-- Why a report cannot be started. -/
inductive ReportError where
  | reference (error : FieldRefError)
  | notEncodable (error : RecordEncodeError)
  deriving DecidableEq

namespace ReportError

/-- What is reported. -/
def message : ReportError → String
  | .reference e => "bad report dependency: " ++ e.message
  | .notEncodable e => "cannot build report request: " ++ e.message

/-- The messages of the errors below this one. -/
def causes : ReportError → List String
  | .reference e => [e.message]
  | .notEncodable e => e.message :: e.causes

end ReportError

/-- What an observation did. -/
inductive Observation where
  | unchanged
  | restarted (token : Poll.Token)
  deriving DecidableEq

/-- A report: its name and application, the references it depends on, the values its chain was
started for, and its poller. -/
structure Report where
  name : String
  appName : String
  dependencies : List FieldRef
  lastValues : Option (List Json)
  poller : Poll.Poller

namespace Report

/-- Append a reference that is not there yet. -/
def addNew (refs : List FieldRef) (r : FieldRef) : List FieldRef :=
  if r ∈ refs then refs else refs ++ [r]

/-- The references a report depends on: its own, then those of its form, each one at its first
appearance. -/
def watched (own form : List FieldRef) : List FieldRef :=
  (own ++ form).foldl addNew []

/-- A report that has not been started. -/
def new (client : Client) (name : String) (own : List String) (form : List FieldRef) :
    Except ReportError Report :=
  match FieldRef.parseAll own with
  | .error e => .error (.reference e)
  | .ok refs => .ok ⟨name, client.appName, watched refs form, none, .new⟩

/-- The reports of a view in document order. -/
def ofView (client : Client) (view : View) : Except ReportError (List Report) :=
  match view.formDependencies with
  | .error e => .error (.reference e)
  | .ok form => view.reports.mapM fun spec => new client spec.name spec.dependencies form

/-- Whether two lists of values agree. -/
def sameValues (a b : List Json) : Bool :=
  Json.agreesItems a b

/-- What a chain of the report asks for. -/
def request (r : Report) (models : Entries Json) (simulationId : String) : RunRequest :=
  ⟨models, false, r.name, simulationId, r.appName⟩

/-- Start a new chain unless the values are those of the running one.  An error changes nothing. -/
def observe (r : Report) (s : Session) (simulationId : String) :
    Except ReportError Observation × Report :=
  let values := s.store.selectValues r.dependencies
  if r.lastValues.any fun last => sameValues last values then (.ok .unchanged, r)
  else
    match s.wireModels with
    | .error e => (.error (.notEncodable e), r)
    | .ok models =>
      let (token, poller) := r.poller.start (r.request models simulationId)
      (.ok (.restarted token), { r with lastValues := some values, poller := poller })

/-- Stop the chain; the next observation starts a new one. -/
def stop (r : Report) : Report :=
  { r with lastValues := none, poller := r.poller.stop }

end Report
end PanelForms

import PanelForms.Backend.Client
import PanelForms.Backend.Retry
import PanelForms.Session.Basic

/-!
# Loading and saving simulations

A session starts by logging in as a guest, listing the simulations of the application and loading
the first one.  The document is kept as it was received, so saving sends back what the forms do
not edit.

Main definitions:

- `Simulation`: a loaded document.
- `Simulation.fetch`: the calls that get a document.
- `Simulation.load`: fetch a document and put its records into a session.
- `Simulation.saveBody`, `Simulation.save`: the document with the records of a session.
-/

namespace PanelForms

/-- Why a simulation is not loaded or saved. -/
inductive SimulationError where
  | call (error : RetryError)
  | noSimulations
  | missingId
  | missingModels
  | notEncodable (error : RecordEncodeError)
  deriving DecidableEq

namespace SimulationError

/-- What is reported. -/
def message : SimulationError → String
  | .call e => e.message
  | .noSimulations => "no simulations available"
  | .missingId => "simulation entry has no simulationId"
  | .missingModels => "simulation source has no models"
  | .notEncodable e => e.message

/-- The messages of the errors below this one. -/
def causes : SimulationError → List String
  | .call e => e.message :: e.causes
  | .notEncodable e => e.message :: e.causes
  | _ => []

end SimulationError

/-- A loaded document with the id it was listed under, which it also holds itself. -/
structure Simulation where
  id : String
  document : Entries Json
  deriving DecidableEq

namespace Simulation

/-- A document under an id. -/
def ofDocument (id : String) (document : Entries Json) : Simulation :=
  ⟨id, Entries.insert "simulationId" (.string id) document⟩

/-- The named records of a document, if it has any. -/
def models? (s : Simulation) : Option (Entries Json) :=
  match Entries.get? "models" s.document with
  | some (.object members) => some members
  | _ => none

/-- Make a call with retries that nobody stops. -/
def attempt {α : Type} (policy : RetryPolicy) (call : Call α) (b : Backend) :
    Except SimulationError α × Backend :=
  let r := policy.run call .never b
  (r.result.mapError .call, r.state)

/-- The id of the first simulation in a list. -/
def firstId : List Json → Except SimulationError String
  | [] => .error .noSimulations
  | entry :: _ =>
    match (entry.member? "simulationId").bind Json.string? with
    | some id => .ok id
    | none => .error .missingId

/-- The simulation of a document, with its records. -/
def ofSource (id : String) (source : Json) : Except SimulationError (Simulation × Entries Json) :=
  match source with
  | .object document =>
    let s := ofDocument id document
    match s.models? with
    | some models => .ok (s, models)
    | none => .error .missingModels
  | _ => .error .missingModels

/-- Log in, list the simulations, and get the document of the first one. -/
def fetch (client : Client) (policy : RetryPolicy) (b : Backend) :
    Except SimulationError (Simulation × Entries Json) × Backend :=
  match attempt policy client.guestLogin b with
  | (.error e, b) => (.error e, b)
  | (.ok _, b) =>
    match attempt policy client.simulationList b with
    | (.error e, b) => (.error e, b)
    | (.ok list, b) =>
      match firstId list with
      | .error e => (.error e, b)
      | .ok id =>
        match attempt policy (client.simulationSource id 0) b with
        | (.error e, b) => (.error e, b)
        | (.ok source, b) => (ofSource id source, b)

/-- Put the records of a document into a session: store them, store the defaults of the models
that are then missing, and seed all forms anew. -/
def adopt (models : Entries Json) (s : Session) : Session :=
  ((s.loadModels models).fillMissingDefaults).initializeForms

/-- Load the first simulation into a session, or leave the session as it is. -/
def load (client : Client) (policy : RetryPolicy) (s : Session) (b : Backend) :
    Except SimulationError Simulation × Session × Backend :=
  match fetch client policy b with
  | (.error e, b) => (.error e, s, b)
  | (.ok (simulation, models), b) => (.ok simulation, adopt models s, b)

/-- The document with the records of a session in wire form. -/
def saveBody (simulation : Simulation) (s : Session) : Except SimulationError Json :=
  match s.wireModels with
  | .error e => .error (.notEncodable e)
  | .ok wire => .ok (.object (Entries.insert "models" (.object wire) simulation.document))

/-- Send the document back with the records of a session. -/
def save (client : Client) (policy : RetryPolicy) (simulation : Simulation) (s : Session)
    (b : Backend) : Except SimulationError Json × Backend :=
  match saveBody simulation s with
  | .error e => (.error e, b)
  | .ok body => attempt policy (client.saveSimulation body) b

end Simulation
end PanelForms

import PanelForms.Backend.Endpoint
import PanelForms.Backend.Transport
import PanelForms.Json.Parser
import PanelForms.Schema.Shape

/-!
# The backend's endpoints

A client calls the endpoints of one application.  Every call sends one request and reads its
answer.

Main definitions:

- `Call`: a call of a backend.
- `Client`: the application that is called.
- `Client.fetchSchema`, `Client.runSimulation` and the other endpoints.
-/

namespace PanelForms

/-- A call: its result, and the backend after it. -/
abbrev Call (α : Type) := Backend → Except ApiError α × Backend

namespace Call

/-- Send a request and keep the body of a successful answer. -/
def bytes (request : Request) : Call (List UInt8) := fun b =>
  match b.send request with
  | (.error e, b) => (.error e, b)
  | (.ok response, b) =>
    if response.isSuccess then (.ok response.body, b)
    else (.error (.status request.path response.status), b)

/-- Read the result of a call. -/
def bindResult {α β : Type} (call : Call α) (read : α → Except ApiError β) : Call β := fun b =>
  match call b with
  | (.error e, b) => (.error e, b)
  | (.ok a, b) => (read a, b)

/-- Ignore the result of a call. -/
def ignore {α : Type} (call : Call α) : Call Unit :=
  call.bindResult fun _ => .ok ()

end Call

/-- The JSON value that bytes hold, of a shape. -/
def readBody? {α : Type} (shape : Json → Option α) (body : List UInt8) : Option α :=
  (String.fromUTF8? ⟨body.toArray⟩).bind fun text =>
    (Json.parse text).toOption.bind shape

namespace Call

/-- Send a request and read a JSON value of a shape from the answer. -/
def json {α : Type} (shape : Json → Option α) (request : Request) : Call α :=
  (bytes request).bindResult fun body =>
    match readBody? shape body with
    | some value => .ok value
    | none => .error (.badBody request.path)

end Call

/-- What a run of a simulation is asked for. -/
structure RunRequest where
  models : Entries Json
  forceRun : Bool
  report : String
  simulationId : String
  simulationType : String
  deriving DecidableEq

namespace RunRequest

/-- The body that asks for a run. -/
def toJson (r : RunRequest) : Json :=
  .object (Entries.ofList [
    ("models", .object r.models), ("forceRun", .bool r.forceRun), ("report", .string r.report),
    ("simulationId", .string r.simulationId), ("simulationType", .string r.simulationType)])

end RunRequest

/-- The application that is called. -/
structure Client where
  appName : String
  deriving DecidableEq

namespace Client

/-- The schema document. -/
def fetchSchema (c : Client) : Call Json :=
  .json some (.get (endpointPath ["react", "schema", c.appName ++ ".json"]))

/-- Log in as a guest. -/
def guestLogin (c : Client) : Call Unit :=
  Call.ignore (.bytes (.get (endpointPath ["auth-guest-login", c.appName])))

/-- The simulations of the application. -/
def simulationList (c : Client) : Call (List Json) :=
  .json Json.items?
    (.post "/simulation-list" (.object [("simulationType", .string c.appName)]))

/-- The document of a simulation. -/
def simulationSource (c : Client) (id : String) (version : Nat) : Call Json :=
  .json some (.get (endpointPath ["simulation", c.appName, id, toString version, "source"]))

/-- Ask for a run, or for the state of one. -/
def runSimulation (_ : Client) (r : RunRequest) : Call Json :=
  .json some (.post "/run-simulation" r.toJson)

/-- Save the document of a simulation. -/
def saveSimulation (_ : Client) (document : Json) : Call Json :=
  .json some (.post "/save-simulation" document)

/-- Ask for a computation, or for the state of one. -/
def statefulCompute (c : Client) (method id : String) : Call Json :=
  .json some (.post "/stateful-compute" (.object [
    ("method", .string method), ("simulationId", .string id),
    ("simulationType", .string c.appName)]))

/-- The files of a field. -/
def fileList (c : Client) (field : String) : Call (List String) :=
  .json (Shape.list? Shape.string?) (.get (endpointPath ["file-list", c.appName, "unused", field]))

/-- Upload a file for a field of a simulation. -/
def uploadFile (c : Client) (id field name : String) (bytes : List UInt8) : Call Unit :=
  Call.ignore (.bytes
    ⟨.post, endpointPath ["upload-file", c.appName, id, field], .file "file" name bytes⟩)

/-- The bytes of a file of a field. -/
def downloadFile (c : Client) (field name : String) : Call (List UInt8) :=
  .bytes (.get (endpointPath ["download-file", c.appName, "unused", field ++ "." ++ name]))

end Client
end PanelForms

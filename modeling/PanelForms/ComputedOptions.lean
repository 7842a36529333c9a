import PanelForms.Backend.Client
import PanelForms.Field.Basic
import PanelForms.Poll.Outcome

/-!
# Computed options

The options of a computed field are the result of a computation of the backend, which is asked for
until it is done.  The options are taken all together or not at all.

Main definitions:

- `OptionList.ofItem?`, `OptionList.ofResult`: the options that a result lists.
- `OptionList.await`: ask until the computation is done.
- `OptionList.collect`: the options of a computation, asked for in any way.
- `OptionList.fetch`: the options of a computed field.
-/

namespace PanelForms

/-- Why there are no options. -/
inductive OptionError where
  | poll (fault : Poll.Fault)
  | missingResult (name : String)
  | badOptions (name : String) (value : Json)
  deriving DecidableEq

namespace OptionError

/-- What is reported. -/
def message : OptionError → String
  | .poll fault => fault.message
  | .missingResult name => "computation result has no " ++ Text.quoted name
  | .badOptions name value => Text.quoted name ++ " is not an option list: " ++ value.text

/-- The messages of the errors below this one. -/
def causes : OptionError → List String
  | .poll fault => fault.message :: fault.causes
  | _ => []

end OptionError

namespace OptionList

/-- The option of a record: its value or simulation id, shown under its display name or name; a
label that is no scalar gives way to the value. -/
def ofRecord? (members : Entries Json) : Option Choice := do
  let item ← Entries.get? "value" members <|> Entries.get? "simulationId" members
  let value ← item.scalarText?
  let label := (Entries.get? "displayName" members <|> Entries.get? "name" members).bind
    Json.scalarText?
  return ⟨value, label.getD value⟩

/-- The option of an item: a scalar, a pair of scalars, or a record. -/
def ofItem? : Json → Option Choice
  | .array [value, label] => do return ⟨← value.scalarText?, ← label.scalarText?⟩
  | .array _ => none
  | .object members => ofRecord? members
  | scalar => scalar.scalarText?.map fun text => ⟨text, text⟩

/-- The options of a list in which every item is one. -/
def ofList? (v : Json) : Option (List Choice) :=
  v.items?.bind fun items => items.mapM ofItem?

/-- The options that a result lists under a name. -/
def ofResult (name : String) (result : Json) : Except OptionError (List Choice) :=
  match result.member? name with
  | none => .error (.missingResult name)
  | some v =>
    match ofList? v with
    | some options => .ok options
    | none => .error (.badOptions name v)

/-- Whether a response is the last one: a response without a state is the result itself. -/
def outcome (response : Json) : Except Poll.Fault Poll.Outcome :=
  if (response.member? "state").isNone then .ok (.completed response)
  else Poll.classify response

/-- The end of a computation, if it has been reached, with the signal and the state after it. -/
structure Awaited (σ : Type) where
  result : Option (Except Poll.Fault Json)
  signal : StopSignal
  state : σ

/-- Ask at most `rounds` times, each time with retries, until the computation is done. -/
def await {σ : Type} (policy : RetryPolicy) (call : σ → Except ApiError Json × σ) :
    (rounds : Nat) → StopSignal → σ → Awaited σ
  | 0, signal, s => ⟨none, signal, s⟩
  | rounds + 1, signal, s =>
    match policy.run call signal s with
    | ⟨.error e, signal, s⟩ => ⟨some (.error (.ofRetry e)), signal, s⟩
    | ⟨.ok response, signal, s⟩ =>
      match outcome response with
      | .error fault => ⟨some (.error fault), signal, s⟩
      | .ok (.completed data) => ⟨some (.ok data), signal, s⟩
      | .ok _ =>
        let (fired, signal) := signal.observe
        if fired then ⟨some (.error .cancelled), signal, s⟩
        else await policy call rounds signal s

/-- The options that the end of a computation gives. -/
def ofEnd (name : String) : Except Poll.Fault Json → Except OptionError (List Choice)
  | .error fault => .error (.poll fault)
  | .ok data => ofResult name data

/-- The options that a computation lists under a name, if at most `rounds` requests end it, and the
state after them. -/
def collect {σ : Type} (policy : RetryPolicy) (call : σ → Except ApiError Json × σ)
    (name : String) (rounds : Nat) (signal : StopSignal) (s : σ) :
    Option (Except OptionError (List Choice)) × σ :=
  let r := await policy call rounds signal s
  (r.result.map (ofEnd name), r.state)

/-- The options of a computed field, and the backend after the calls; none if the script of the
backend never ends the computation and the signal never fires. -/
def fetch (client : Client) (policy : RetryPolicy) (source : ComputeSource) (id : String)
    (signal : StopSignal) (b : Backend) :
    Option (Except OptionError (List Choice)) × Backend :=
  collect policy (client.statefulCompute source.method id) source.resultName
    (b.scriptLength + 2 + signal.looksLeft.getD 0) signal b

end OptionList
end PanelForms

import PanelForms.Poll.Outcome

/-!
# Poll chains

A chain polls one run: it requests, reads the response, and requests again until the run ends or
the chain is replaced.  Once it has ended it stays ended.

Main definitions:

- `Poll.Token`: the number of a chain.
- `Poll.Chain`: a chain with its phase and the number of its requests.
- `Chain.beginRequest`, `Chain.onResponse`, `Chain.fail`, `Chain.supersede`: the operations.
-/

namespace PanelForms
namespace Poll

/-- The number of a chain; zero stands for no chain. -/
structure Token where
  number : Nat
  deriving DecidableEq

namespace Token

/-- The token of no chain. -/
def none : Token := ⟨0⟩

/-- Whether this is the token of no chain. -/
def isNone (t : Token) : Bool :=
  t.number == 0

/-- How a token is shown. -/
def text (t : Token) : String :=
  "poll#" ++ toString t.number

end Token

/-- Where a chain is in its life. -/
inductive Phase where
  | idle
  | requesting
  | pending
  | running
  | completed
  | failed
  | superseded
  deriving DecidableEq

namespace Phase

/-- The name of a phase. -/
def name : Phase → String
  | .idle => "idle"
  | .requesting => "requesting"
  | .pending => "pending"
  | .running => "running"
  | .completed => "completed"
  | .failed => "failed"
  | .superseded => "superseded"

/-- Whether a chain has ended. -/
def isTerminal : Phase → Bool
  | .completed | .failed | .superseded => true
  | _ => false

end Phase

/-- What follows a response: poll again, deliver data and poll again, or deliver the last data. -/
inductive Step where
  | repoll
  | progress (data : Json)
  | finished (data : Json)
  deriving DecidableEq

/-- A chain: its token, its phase, and how many requests it has begun. -/
structure Chain where
  token : Token
  phase : Phase
  requests : Nat
  deriving DecidableEq

namespace Chain

/-- A chain that has not requested anything. -/
def new (token : Token) : Chain :=
  ⟨token, .idle, 0⟩

/-- Begin a request.  A request that is under way is not counted again, and a chain that has ended
begins none. -/
def beginRequest (c : Chain) : Bool × Chain :=
  match c.phase with
  | .idle | .pending | .running =>
    (true, { c with phase := .requesting, requests := c.requests + 1 })
  | .requesting => (true, c)
  | .completed | .failed | .superseded => (false, c)

/-- Take a response. -/
def onResponse (c : Chain) (response : Json) : Except Fault Step × Chain :=
  if c.phase.isTerminal then (.error .cancelled, c)
  else
    match classify response with
    | .ok .pending => (.ok .repoll, { c with phase := .pending })
    | .ok (.running data) => (.ok (.progress data), { c with phase := .running })
    | .ok (.completed data) => (.ok (.finished data), { c with phase := .completed })
    | .error e => (.error e, { c with phase := .failed })

/-- End the chain in a phase, unless it has ended. -/
def endAs (c : Chain) (phase : Phase) : Chain :=
  if c.phase.isTerminal then c else { c with phase := phase }

/-- End the chain because its request failed. -/
def fail (c : Chain) : Chain :=
  c.endAs .failed

/-- End the chain because another one replaces it. -/
def supersede (c : Chain) : Chain :=
  c.endAs .superseded

end Chain
end Poll
end PanelForms

import PanelForms.Poll.Trace

/-!
# Coordination of poll chains

A coordinator numbers the chains of one report and applies an update only if it comes from the
chain started last, as long as that chain has neither been stopped nor ended.

Main definitions:

- `Poll.Update`, `Poll.Message`: what a chain delivers.
- `Poll.Coordinator`: the state.
- `Coordinator.start`, `Coordinator.stop`, `Coordinator.accept`: the operations.
-/

namespace PanelForms
namespace Poll

/-- What a chain delivers: data on the way, the last data, or how it failed. -/
inductive Update where
  | progress (data : Json)
  | completed (data : Json)
  | failed (fault : Fault)
  deriving DecidableEq

namespace Update

/-- Whether an update is the last of its chain. -/
def isTerminal : Update → Bool
  | .progress _ => false
  | _ => true

/-- The name of the kind of an update. -/
def kind : Update → String
  | .progress _ => "progress"
  | .completed _ => "completed"
  | .failed _ => "failed"

end Update

/-- An update with the chain and the report it belongs to. -/
structure Message where
  token : Token
  report : String
  update : Update
  deriving DecidableEq

/-- The last token given out, the current one, whether its chain may still deliver, and the
trace. -/
structure Coordinator where
  lastToken : Nat
  current : Token
  isOpen : Bool
  trace : Trace
  deriving DecidableEq

namespace Coordinator

/-- A coordinator without a chain, whose trace keeps so many events. -/
def withCapacity (capacity : Nat) : Coordinator :=
  ⟨0, .none, false, .withCapacity capacity⟩

/-- A coordinator without a chain. -/
def new : Coordinator :=
  .withCapacity Trace.standardCapacity

/-- The token of the next chain. -/
def nextToken (c : Coordinator) : Token :=
  ⟨c.lastToken + 1⟩

/-- Start a chain, which gets `c.nextToken` and replaces the current one. -/
def start (c : Coordinator) : Coordinator :=
  let token := c.nextToken
  let trace := if c.isOpen then c.trace.push (.superseded c.current token) else c.trace
  ⟨token.number, token, true, trace.push (.started token)⟩

/-- Stop the current chain. -/
def stop (c : Coordinator) : Coordinator :=
  let trace := if c.isOpen then c.trace.push (.stopped c.current) else c.trace
  { c with current := .none, isOpen := false, trace := trace }

/-- Whether a message is applied. -/
def applies (c : Coordinator) (m : Message) : Bool :=
  m.token = c.current && c.isOpen

/-- Take a message: apply it if it belongs to the current chain, else discard it. -/
def accept (c : Coordinator) (m : Message) : Option Message × Coordinator :=
  if c.applies m then
    (some m,
      { c with
        isOpen := !m.update.isTerminal
        trace := c.trace.push (.applied m.token m.update.kind) })
  else
    let current := if c.isOpen then c.current else .none
    (none, { c with trace := c.trace.push (.staleDiscarded m.token current m.update.kind) })

/-- Drop the recorded events; what is applied does not depend on them. -/
def clearTrace (c : Coordinator) : Coordinator :=
  { c with trace := c.trace.clear }

end Coordinator
end Poll
end PanelForms

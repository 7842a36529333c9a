import PanelForms.Poll.Chain

/-!
# Traces of poll events

A trace keeps the most recent events of a coordinator.  What it must obey is checked against the
latest start before the events kept, so dropping old events changes no verdict on the others.

Main definitions:

- `Poll.Event`, `Poll.Trace`.
- `Trace.push`, `Trace.clear`: record an event, drop all events.
- `Poll.violations`: the rules that a log breaks, given the latest start before it.
-/

namespace PanelForms
namespace Poll

/-- Something that happened to the chains of a coordinator. -/
inductive Event where
  | started (token : Token)
  | superseded (token successor : Token)
  | stopped (token : Token)
  | applied (token : Token) (kind : String)
  | staleDiscarded (token current : Token) (kind : String)
  deriving DecidableEq

namespace Event

/-- The token that an event is about. -/
def token : Event → Token
  | .started t => t
  | .superseded t _ => t
  | .stopped t => t
  | .applied t _ => t
  | .staleDiscarded t _ _ => t

/-- The name of the type of an event. -/
def typeName : Event → String
  | .started _ => "started"
  | .superseded _ _ => "superseded"
  | .stopped _ => "stopped"
  | .applied _ _ => "applied"
  | .staleDiscarded _ _ _ => "stale_discarded"

/-- The token that is the latest start after an event. -/
def latestStart (latest : Token) : Event → Token
  | .started t => t
  | _ => latest

end Event

/-- A rule that an event breaks. -/
inductive Violation where
  | startNotIncreasing (token latest : Token)
  | appliedToAnother (token latest : Token)
  | currentDiscarded (token : Token)
  deriving DecidableEq

namespace Violation

/-- What is reported. -/
def message : Violation → String
  | .startNotIncreasing token latest =>
    "non-monotonic start: " ++ token.text ++ " after " ++ latest.text
  | .appliedToAnother token latest =>
    "applied " ++ token.text ++ " while " ++ latest.text ++ " is current"
  | .currentDiscarded token => "discarded current update for " ++ token.text

end Violation

/-- The rule that an event breaks after the latest start: starts increase, updates are applied to
the chain started last, and no update of the current chain is discarded. -/
def violation? (latest : Token) : Event → Option Violation
  | .started t => if t.number ≤ latest.number then some (.startNotIncreasing t latest) else none
  | .applied t _ => if t = latest then none else some (.appliedToAnother t latest)
  | .staleDiscarded t current _ => if t = current then some (.currentDiscarded t) else none
  | _ => none

/-- The rules that the events of a log break, in order. -/
def violations (latest : Token) : List Event → List Violation
  | [] => []
  | e :: rest => (violation? latest e).toList ++ violations (e.latestStart latest) rest

/-- The most recent events, at most `capacity` of them; the latest start before them; and the
latest start of all. -/
structure Trace where
  events : List Event
  capacity : Nat
  base : Token
  lastStarted : Token
  deriving DecidableEq

namespace Trace

/-- How many events are kept unless said otherwise. -/
def standardCapacity : Nat := 1024

/-- An empty trace that keeps at most so many events, at least one. -/
def withCapacity (capacity : Nat) : Trace :=
  ⟨[], max capacity 1, .none, .none⟩

/-- Drop the oldest event of a full trace. -/
def makeRoom (t : Trace) : Trace :=
  if t.events.length = t.capacity then
    match t.events with
    | [] => t
    | oldest :: rest => { t with events := rest, base := oldest.latestStart t.base }
  else t

/-- Record an event. -/
def push (t : Trace) (e : Event) : Trace :=
  let t := { t with lastStarted := e.latestStart t.lastStarted }.makeRoom
  { t with events := t.events ++ [e] }

/-- Drop all events.  What is checked later continues from the latest start. -/
def clear (t : Trace) : Trace :=
  { t with events := [], base := t.lastStarted }

/-- Whether there is an event of a type about a token. -/
def containsType (t : Trace) (token : Token) (typeName : String) : Bool :=
  t.events.any fun e => e.token = token && e.typeName == typeName

/-- The rules that the events kept break. -/
def faults (t : Trace) : List Violation :=
  violations t.base t.events

end Trace
end Poll
end PanelForms

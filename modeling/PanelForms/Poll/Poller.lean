import PanelForms.Poll.Worker

/-!
# Report pollers

A poller runs the chains of one report.  Every chain has a worker of its own, which delivers its
updates into one queue.  A worker whose chain is replaced or stopped is told to stop; until it
notices it may go on, and what it has delivered stays in the queue and is discarded when it is
taken out.

Main definitions:

- `Poll.Worker`, `Poll.Poller`: the state of the workers, the queue and the coordinator.
- `Poller.start`, `Poller.stop`, `Poller.receive`, `Poller.tryNext`: what the owner does.
- `Poller.work`, `Poller.notice`: what a worker does.
- `Poller.step`, `Poller.run`: any interleaving of the two.
-/

namespace PanelForms
namespace Poll

/-- The worker of a chain: what it requests, how many updates it has delivered, whether it has
been told to stop, and whether it has noticed. -/
structure Worker where
  token : Token
  request : RunRequest
  delivered : Nat
  halted : Bool
  gone : Bool
  deriving DecidableEq

/-- The coordinator, the workers in the order of their start, which of them is active, and the
messages in the queue, oldest first. -/
structure Poller where
  coordinator : Coordinator
  workers : List Worker
  active : Option Nat
  queue : List Message
  deriving DecidableEq

namespace Poller

/-- A poller without a chain. -/
def new : Poller :=
  ⟨.new, [], none, []⟩

/-- The token of the current chain. -/
def currentToken (p : Poller) : Token :=
  p.coordinator.current

/-- Whether the current chain may still deliver. -/
def isPolling (p : Poller) : Bool :=
  p.coordinator.isOpen

/-- The active worker. -/
def activeWorker? (p : Poller) : Option Worker :=
  p.active.bind fun i => p.workers[i]?

/-- Tell the active worker to stop. -/
def haltActive (p : Poller) : Poller :=
  match p.active with
  | none => p
  | some i =>
    { p with
      active := none
      workers := p.workers.modify i fun w => { w with halted := true } }

/-- Start a chain for a request; its token is the next one of the coordinator. -/
def start (p : Poller) (request : RunRequest) : Token × Poller :=
  let p := p.haltActive
  let token := p.coordinator.nextToken
  (token,
    { p with
      coordinator := p.coordinator.start
      workers := p.workers ++ [⟨token, request, 0, false, false⟩]
      active := some p.workers.length })

/-- Stop the current chain. -/
def stop (p : Poller) : Poller :=
  let p := p.haltActive
  { p with coordinator := p.coordinator.stop }

/-- Take a message to the coordinator.  The worker of a chain that has ended is active no more. -/
def accept (p : Poller) (m : Message) : Option Message × Poller :=
  let (applied, coordinator) := p.coordinator.accept m
  let p := { p with coordinator := coordinator }
  match applied with
  | none => (none, p)
  | some m => (some m, if m.update.isTerminal then { p with active := none } else p)

/-- Take messages out of the queue until one is applied. -/
def takeFrom : List Message → Poller → Option Message × Poller
  | [], p => (none, { p with queue := [] })
  | m :: rest, p =>
    match p.accept m with
    | (some m, p) => (some m, { p with queue := rest })
    | (none, p) => takeFrom rest p

/-- Take the oldest message in the queue to the coordinator.  This is one turn of `tryNext`, which
takes turns until a message is applied or the queue is empty; workers may act between two turns. -/
def receive (p : Poller) : Option Message × Poller :=
  match p.queue with
  | [] => (none, p)
  | m :: rest => { p with queue := rest }.accept m

/-- The next applied message that is waiting. -/
def tryNext (p : Poller) : Option Message × Poller :=
  takeFrom p.queue p

/-- The applied messages that are waiting, at most `count` of them. -/
def takeUpTo : (count : Nat) → Poller → List Message × Poller
  | 0, p => ([], p)
  | count + 1, p =>
    match p.tryNext with
    | (none, p) => ([], p)
    | (some m, p) =>
      let (others, p) := takeUpTo count p
      (m :: others, p)

/-- All applied messages that are waiting. -/
def drain (p : Poller) : List Message × Poller :=
  takeUpTo p.queue.length p

/-- Drop the recorded events. -/
def clearTrace (p : Poller) : Poller :=
  { p with coordinator := p.coordinator.clearTrace }

/-- One step of a worker, which delivers the next of the updates that its chain has to deliver,
unless it has noticed that it was told to stop. -/
def work (updates : Token → List Update) (p : Poller) (i : Nat) : Poller :=
  match p.workers[i]? with
  | none => p
  | some w =>
    if w.gone then p
    else
      match (updates w.token)[w.delivered]? with
      | none => p
      | some update =>
        { p with
          workers := p.workers.modify i fun w => { w with delivered := w.delivered + 1 }
          queue := p.queue ++ [⟨w.token, w.request.report, update⟩] }

/-- A worker that has been told to stop notices it, and delivers nothing from then on. -/
def notice (p : Poller) (i : Nat) : Poller :=
  { p with workers := p.workers.modify i fun w => { w with gone := w.gone || w.halted } }

/-- Let the active worker deliver all of its updates. -/
def workThrough (updates : List Update) (p : Poller) : Poller :=
  match p.active with
  | none => p
  | some i => updates.foldl (fun p _ => p.work (fun _ => updates) i) p

/-- What happens to a poller. -/
inductive Action where
  | start (request : RunRequest)
  | stop
  | receive
  | tryNext
  | work (worker : Nat)
  | notice (worker : Nat)

/-- One action, with the message that the owner gets from it. -/
def step (updates : Token → List Update) (p : Poller) : Action → Option Message × Poller
  | .start request => (none, (p.start request).2)
  | .stop => (none, p.stop)
  | .receive => p.receive
  | .tryNext => p.tryNext
  | .work i => (none, p.work updates i)
  | .notice i => (none, p.notice i)

/-- Some actions, with the messages that the owner gets from them. -/
def run (updates : Token → List Update) : Poller → List Action → List Message × Poller
  | p, [] => ([], p)
  | p, a :: rest =>
    let (got, p) := p.step updates a
    let (others, p) := run updates p rest
    (got.toList ++ others, p)

end Poller

/-- The updates that the active worker has to deliver, and the backend after its requests.  A run
that the script never ends delivers what comes before the script repeats itself. -/
def activeUpdates (client : Client) (policy : RetryPolicy) (p : Poller) (b : Backend) :
    List Update × Backend :=
  match p.activeWorker? with
  | none => ([], b)
  | some w =>
    let run := runWorker policy (client.runSimulation w.request) (b.scriptLength + 2)
      (.new w.token) .never b
    (run.updates, run.state)

/-- Let the active worker deliver all of its updates and take the applied messages. -/
def settle (client : Client) (policy : RetryPolicy) (p : Poller) (b : Backend) :
    List Message × Poller × Backend :=
  let (updates, b) := activeUpdates client policy p b
  let (messages, p) := (p.workThrough updates).drain
  (messages, p, b)

end Poll
end PanelForms

import PanelForms.Backend.Client
import PanelForms.Poll.Coordinator

/-!
# What a chain delivers

The worker of a chain requests a run until it ends, and delivers an update for every response with
data and one for the end.  It looks at its stop signal after every response and while it waits for
the next poll, and delivers nothing more once it has found the signal fired.

Main definitions:

- `Poll.WorkerRun`: what a worker has delivered, and the state it ends in.
- `Poll.runWorker`: the rounds of a worker.
-/

namespace PanelForms
namespace Poll

/-- What a worker has delivered, whether its chain has ended, and the chain, the signal and the
state of the backend after it. -/
structure WorkerRun (σ : Type) where
  updates : List Update
  ended : Bool
  chain : Chain
  signal : StopSignal
  state : σ

namespace WorkerRun

/-- A run that delivered one more update before all others. -/
def prepend {σ : Type} (u : Update) (r : WorkerRun σ) : WorkerRun σ :=
  { r with updates := u :: r.updates }

end WorkerRun

/-- At most `rounds` rounds of a worker, each a request with its retries. -/
def runWorker {σ : Type} (policy : RetryPolicy) (call : σ → Except ApiError Json × σ) :
    (rounds : Nat) → Chain → StopSignal → σ → WorkerRun σ
  | 0, chain, signal, s => ⟨[], false, chain, signal, s⟩
  | rounds + 1, chain, signal, s =>
    match chain.beginRequest with
    | (false, chain) => ⟨[], true, chain, signal, s⟩
    | (true, chain) =>
      match policy.run call signal s with
      | ⟨.error .stopped, signal, s⟩ => ⟨[], true, chain.supersede, signal, s⟩
      | ⟨.error (.failed attempts source), signal, s⟩ =>
        ⟨[.failed (.transport attempts source)], true, chain.fail, signal, s⟩
      | ⟨.ok response, signal, s⟩ =>
        let (fired, signal) := signal.observe
        if fired then ⟨[], true, chain.supersede, signal, s⟩
        else
          match chain.onResponse response with
          | (.error fault, chain) => ⟨[.failed fault], true, chain, signal, s⟩
          | (.ok (.finished data), chain) => ⟨[.completed data], true, chain, signal, s⟩
          | (.ok (.progress data), chain) =>
            let (fired, signal) := signal.observe
            if fired then ⟨[.progress data], true, chain.supersede, signal, s⟩
            else (runWorker policy call rounds chain signal s).prepend (.progress data)
          | (.ok .repoll, chain) =>
            let (fired, signal) := signal.observe
            if fired then ⟨[], true, chain.supersede, signal, s⟩
            else runWorker policy call rounds chain signal s

end Poll
end PanelForms

import PanelForms.Poll.Poller
import PanelForms.Proofs.Poll.Answers
import PanelForms.Proofs.Poll.WorkerLog

/-!
# The messages of a chain

A chain that nobody stops asks for its run until the answer is neither pending nor running, and
what it sends is decided by these answers alone.  A stop signal, whenever it fires, leaves a first
part of these messages, and hardly anything is done after it has fired.

Main results:

- Definitions `Poll.GoesOn` and `Poll.Concludes`: answers after which a chain goes on, and a request
  that ends it.
- Theorem `Poll.round_cases`: a round that is never stopped goes on, or sends the last message.
- Theorem `Poll.chain_messages`: what one chain sends.
-/

namespace PanelForms
namespace Poll

open Attempts WorkEvent

/-! ## Answers -/

variable {σ : Type}

section answers

variable (policy : RetryPolicy) (call : σ → Except ApiError Json × σ)

/-- Requests that are all answered by a run that waits or goes on, with their responses. -/
inductive GoesOn : σ → List Json → σ → Prop where
  | nil (s : σ) : GoesOn s [] s
  | cons {s s₁ s₂ : σ} {response : Json} {rest : List Json}
      (hrun : policy.run call .never s = ⟨.ok response, .never, s₁⟩)
      (hstate : InState response "pending" ∨ InState response "running")
      (hrest : GoesOn s₁ rest s₂) : GoesOn s (response :: rest) s₂

/-- A request that ends a chain, with the update for it: the run is completed, the response reports
a fault, or there is no response after all attempts. -/
inductive Concludes (s : σ) : Update → σ → Prop where
  | completed {response : Json} {s' : σ}
      (hrun : policy.run call .never s = ⟨.ok response, .never, s'⟩)
      (hstate : InState response "completed") : Concludes s (.completed response) s'
  | failed {response : Json} {fault : Fault} {s' : σ}
      (hrun : policy.run call .never s = ⟨.ok response, .never, s'⟩)
      (hreports : Reports response fault) : Concludes s (.failed fault) s'
  | gaveUp {attempts : Nat} {source : ApiError} {s' : σ}
      (hrun : policy.run call .never s = ⟨.error (.failed attempts source), .never, s'⟩) :
      Concludes s (.failed (.transport attempts source)) s'

end answers

/-- One update for each response of a run that goes on, and none for those of a run that waits. -/
def progressOf (responses : List Json) : List Update :=
  (responses.filter fun response => InState response "running").map .progress

/-! ## Rounds that are never stopped -/

namespace Chain

/-- The chain may begin another request. -/
def Ready (c : Chain) : Prop :=
  c.phase = .idle ∨ c.phase = .pending ∨ c.phase = .running

/-- A chain that is ready begins its request, which is counted. -/
theorem Ready.beginRequest {c : Chain} (h : c.Ready) :
    c.beginRequest = (true, { c with phase := .requesting, requests := c.requests + 1 }) := by
  rcases h with h | h | h <;> simp [Chain.beginRequest, h]

@[simp]
theorem token_beginRequest (c : Chain) : c.beginRequest.2.token = c.token := by
  unfold Chain.beginRequest
  split <;> rfl

@[simp]
theorem token_endAs (c : Chain) (phase : Phase) : (c.endAs phase).token = c.token := by
  unfold endAs
  split <;> rfl

@[simp]
theorem token_onResponse (c : Chain) (response : Json) :
    (c.onResponse response).2.token = c.token := by
  unfold onResponse
  split
  · rfl
  · split <;> rfl

end Chain

section rounds

variable {policy : RetryPolicy} {call : σ → Except ApiError Json × σ} {report : String}

/-- A round after which the chain goes on. -/
structure Continues (policy : RetryPolicy) (call : σ → Except ApiError Json × σ) (chain : Chain)
    (s : σ) (response : Json) (round : WorkerRun σ) : Prop where
  asked : policy.run call .never s = ⟨.ok response, .never, round.state⟩
  answered : InState response "pending" ∧ round.updates = [] ∨
    InState response "running" ∧ round.updates = [.progress response]
  goesOn : round.ended = false
  ready : round.chain.Ready
  token : round.chain.token = chain.token
  requests : round.chain.requests = chain.requests + 1

/-- A round that ends the chain, with the update that it sends last of all. -/
structure Finishes (policy : RetryPolicy) (call : σ → Except ApiError Json × σ) (report : String)
    (chain : Chain) (s : σ) (u : Update) (round : Recorded Message (WorkerRun σ)) : Prop where
  ends : Concludes policy call s u round.outcome.state
  updates : round.outcome.updates = [u]
  ended : round.outcome.ended = true
  requests : round.outcome.chain.requests = chain.requests + 1
  last : round.log.getLast? = some (.send ⟨chain.token, report, u⟩)

/-- A round that is never stopped goes on or sends the last message, by what the answer to its
request says. -/
theorem round_cases {chain : Chain} (hready : chain.Ready) (s : σ) :
    (∃ response, Continues policy call chain s response
      (recordRound policy call report chain .never s).outcome) ∨
    ∃ u, Finishes policy call report chain s u (recordRound policy call report chain .never s) := by
  obtain ⟨k, hrun⟩ := policy.exists_run_never call s
  have hstopped := verdict_ne_stopped call k s
  generalize hlog : (policy.record Message call .never s).log = log
  have houtcome := policy.outcome_record Message call .never s
  simp only [recordRound, hready.beginRequest, houtcome, hrun, hlog]
  generalize stateAfter call k s = s' at *
  rcases hverdict : verdict call k s with (_ | ⟨attempts, source⟩) | response
  · exact absurd hverdict hstopped
  · rw [hverdict] at hrun
    refine Or.inr ⟨_, .gaveUp hrun, rfl, rfl, rfl, ?_⟩
    simp [Recorded.after, recordAnswer]
  · rw [hverdict] at hrun
    rcases hstate : classify response with fault | (_ | data | data)
    all_goals simp only [Recorded.after, recordAnswer, Chain.onResponse, Phase.isTerminal, hstate,
      StopSignal.observe_never, Bool.false_eq_true, if_false]
    · have hreports := classify_eq_error_iff.mp hstate
      exact Or.inr ⟨_, .failed hrun hreports, rfl, rfl, rfl, by simp⟩
    · have hin := classify_eq_pending_iff.mp hstate
      exact Or.inl ⟨response, hrun, Or.inl ⟨hin, rfl⟩, rfl, Or.inr (Or.inl rfl), rfl, rfl⟩
    · obtain ⟨rfl, hin⟩ := classify_eq_running_iff.mp hstate
      exact Or.inl ⟨data, hrun, Or.inr ⟨hin, rfl⟩, rfl, Or.inr (Or.inr rfl), rfl, rfl⟩
    · obtain ⟨rfl, hin⟩ := classify_eq_completed_iff.mp hstate
      exact Or.inr ⟨_, .completed hrun hin, rfl, rfl, rfl, by simp⟩

/-- After so many rounds the chain still goes on. -/
structure StillGoing (policy : RetryPolicy) (call : σ → Except ApiError Json × σ) (rounds : Nat)
    (chain : Chain) (s : σ) (responses : List Json) (run : WorkerRun σ) : Prop where
  goesOn : GoesOn policy call s responses run.state
  length : responses.length = rounds
  updates : run.updates = progressOf responses
  ended : run.ended = false
  requests : run.chain.requests = chain.requests + rounds

/-- Within so many rounds the chain has ended: it has sent one last message, and has done nothing
after it. -/
structure HasEnded (policy : RetryPolicy) (call : σ → Except ApiError Json × σ) (report : String)
    (rounds : Nat) (chain : Chain) (s : σ) (responses : List Json) (u : Update)
    (run : Recorded Message (WorkerRun σ)) : Prop where
  ends : ∃ s₁, GoesOn policy call s responses s₁ ∧ Concludes policy call s₁ u run.outcome.state
  length : responses.length < rounds
  updates : run.outcome.updates = progressOf responses ++ [u]
  ended : run.outcome.ended = true
  requests : run.outcome.chain.requests = chain.requests + responses.length + 1
  last : run.log.getLast? = some (.send ⟨chain.token, report, u⟩)

/-- The update of a round that goes on is progress if its response is. -/
theorem Continues.progressOf_cons {chain : Chain} {s : σ} {response : Json} {round : WorkerRun σ}
    (h : Continues policy call chain s response round) (rest : List Json) :
    progressOf (response :: rest) = round.updates ++ progressOf rest := by
  rcases h.answered with ⟨hstate, hupdates⟩ | ⟨hstate, hupdates⟩
  · have hrunning : ¬ InState response "running" := hstate.not_of_ne (by simp)
    simp [progressOf, hrunning, hupdates]
  · simp [progressOf, hstate, hupdates]

/-- A round that goes on joins what goes on after it. -/
theorem Continues.goesOn_cons {chain : Chain} {s s' : σ} {response : Json} {round : WorkerRun σ}
    (h : Continues policy call chain s response round) {rest : List Json}
    (hrest : GoesOn policy call round.state rest s') :
    GoesOn policy call s (response :: rest) s' := by
  refine .cons h.asked ?_ hrest
  exact h.answered.imp And.left And.left

/-- In so many rounds, a chain that is never stopped goes on or ends. -/
theorem going_or_ended (rounds : Nat) {chain : Chain} (hready : chain.Ready) (s : σ) :
    (∃ responses, StillGoing policy call rounds chain s responses
      (recordWorker policy call report rounds chain .never s).outcome) ∨
    ∃ responses u, HasEnded policy call report rounds chain s responses u
      (recordWorker policy call report rounds chain .never s) := by
  induction rounds generalizing chain s with
  | zero => exact Or.inl ⟨[], .nil s, rfl, rfl, rfl, rfl⟩
  | succ rounds ih =>
    have hcases : (∃ response, Continues policy call chain s response _) ∨
        ∃ u, Finishes policy call report chain s u _ := round_cases hready s
    have hnever : (recordRound policy call report chain .never s).outcome.signal = .never :=
      signal_recordRound_never chain s
    rw [recordWorker]
    generalize recordRound policy call report chain .never s = round at *
    rcases hcases with ⟨response, hround⟩ | ⟨u, hround⟩
    · rw [if_neg (by simp [hround.goesOn]), hnever]
      rcases ih hround.ready round.outcome.state with ⟨rest, hrest⟩ | ⟨rest, u, hrest⟩
      · refine Or.inl ⟨response :: rest, ?_, ?_, ?_, ?_, ?_⟩
        · exact hround.goesOn_cons hrest.goesOn
        · simp [hrest.length]
        · simp [hrest.updates, hround.progressOf_cons]
        · exact hrest.ended
        · have hrequests := hrest.requests
          have hone := hround.requests
          dsimp only
          omega
      · refine Or.inr ⟨response :: rest, u, ?_, ?_, ?_, ?_, ?_, ?_⟩
        · obtain ⟨s₁, hgoes, hends⟩ := hrest.ends
          exact ⟨s₁, hround.goesOn_cons hgoes, hends⟩
        · simpa using hrest.length
        · simp [hrest.updates, hround.progressOf_cons]
        · exact hrest.ended
        · have hrequests := hrest.requests
          have hone := hround.requests
          dsimp only [List.length_cons]
          omega
        · simp [List.getLast?_append, hrest.last, hround.token]
    · rw [if_pos hround.ended]
      refine Or.inr ⟨[], u, ⟨s, .nil s, hround.ends⟩, Nat.succ_pos rounds, hround.updates,
        hround.ended, hround.requests, hround.last⟩

end rounds

/-! ## Messages and updates -/

section messages

variable {policy : RetryPolicy} {call : σ → Except ApiError Json × σ} {report : String}

/-- What is done with an answer sends its updates, with the token of the chain and the name of the
report. -/
theorem sends_recordAnswer (report : String) (chain : Chain) (r : Retried σ Json) :
    sends (recordAnswer report chain r).log =
      (recordAnswer report chain r).outcome.updates.map (Message.mk chain.token report) := by
  obtain ⟨(_ | ⟨attempts, source⟩) | response, signal, s⟩ := r
  · rfl
  · rfl
  · have htoken := chain.token_onResponse response
    rcases hlook : signal.observe with ⟨_ | _, signal⟩
    · rcases htake : chain.onResponse response with ⟨fault | (_ | data | data), next⟩ <;>
        rcases hwait : signal.observe with ⟨_ | _, signal⟩ <;>
        simp_all [recordAnswer]
    · simp [recordAnswer, hlook]

theorem token_recordAnswer (report : String) (chain : Chain) (r : Retried σ Json) :
    (recordAnswer report chain r).outcome.chain.token = chain.token := by
  obtain ⟨(_ | ⟨attempts, source⟩) | response, signal, s⟩ := r
  · exact chain.token_endAs _
  · exact chain.token_endAs _
  · have htoken := chain.token_onResponse response
    rcases hlook : signal.observe with ⟨_ | _, signal⟩
    · rcases htake : chain.onResponse response with ⟨fault | (_ | data | data), next⟩ <;>
        rcases hwait : signal.observe with ⟨_ | _, signal⟩ <;>
        simp_all [recordAnswer, Chain.supersede]
    · simp [recordAnswer, hlook, Chain.supersede]

/-- A round sends its updates, with the token of the chain and the name of the report. -/
theorem sends_recordRound (chain : Chain) (signal : StopSignal) (s : σ) :
    sends (recordRound policy call report chain signal s).log =
        (recordRound policy call report chain signal s).outcome.updates.map
          (Message.mk chain.token report) ∧
      (recordRound policy call report chain signal s).outcome.chain.token = chain.token := by
  have htoken := chain.token_beginRequest
  unfold recordRound
  rcases hbegin : chain.beginRequest with ⟨_ | _, next⟩ <;> rw [hbegin] at htoken
  · exact ⟨rfl, htoken⟩
  · have hsends := sends_recordAnswer report next (policy.record Message call signal s).outcome
    have hnext := token_recordAnswer report next (policy.record Message call signal s).outcome
    rw [htoken] at hsends hnext
    exact ⟨by simp [Recorded.after, RetryPolicy.sends_record, hsends], hnext⟩

/-- A worker sends its updates, with the token of its chain and the name of its report. -/
theorem sends_recordWorker (rounds : Nat) (chain : Chain) (signal : StopSignal) (s : σ) :
    sends (recordWorker policy call report rounds chain signal s).log =
      (runWorker policy call rounds chain signal s).updates.map
        (Message.mk chain.token report) := by
  rw [← outcome_recordWorker policy call report]
  induction rounds generalizing chain signal s with
  | zero => rfl
  | succ rounds ih =>
    obtain ⟨hround, htoken⟩ : _ ∧ (recordRound policy call report chain signal s).outcome.chain.token
      = chain.token := sends_recordRound chain signal s
    rw [recordWorker]
    split
    · exact hround
    · simp [hround, ih, htoken]

end messages

/-! ## Messages in the queue -/

namespace Poller

/-- A worker that delivers the rest of its updates puts them into the queue one by one. -/
theorem queue_foldl_work {updates : List Update} {request : RunRequest} {token : Token} {i : Nat}
    (done rest : List Update) (hsplit : updates = done ++ rest) (p : Poller)
    (hworker : p.workers[i]? = some ⟨token, request, done.length, false, false⟩) :
    (rest.foldl (fun p _ => p.work (fun _ => updates) i) p).queue =
      p.queue ++ rest.map (Message.mk token request.report) := by
  induction rest generalizing done p with
  | nil => simp
  | cons u rest ih =>
    have hnext : updates[done.length]? = some u := by simp [hsplit]
    have hwork : p.work (fun _ => updates) i =
        { p with
          workers := p.workers.modify i fun w => { w with delivered := w.delivered + 1 }
          queue := p.queue ++ [⟨token, request.report, u⟩] } := by
      simp [work, hworker, hnext]
    rw [List.foldl_cons, hwork, ih (done ++ [u]) (by simp [hsplit])]
    · simp
    · simp [hworker]

/-- A worker that delivers all of its updates puts them into the queue with the token of its chain
and the name of its report. -/
theorem queue_workThrough_start (p : Poller) (request : RunRequest) (updates : List Update) :
    ((p.start request).2.workThrough updates).queue =
      p.queue ++ updates.map (Message.mk (p.start request).1 request.report) := by
  have hqueue : p.haltActive.queue = p.queue := by
    unfold haltActive
    split <;> rfl
  have hworkers : (p.start request).2.workers[p.haltActive.workers.length]? =
      some ⟨(p.start request).1, request, 0, false, false⟩ := by
    simp [start]
  have hdelivered := queue_foldl_work [] updates rfl (p.start request).2 hworkers
  rw [← hqueue]
  exact hdelivered

end Poller

/-! ## What a chain sends -/

/-- The record `part` of a worker under a signal, compared with the record `whole` of one that
nobody stops.  Its messages are the first ones of the other.  After the last look that finds the
signal unfired, at most one call is made and at most one message is sent; the signal fires after
just the looks before it, and nothing is done after a look that finds it fired. -/
structure StopsShort (signal : StopSignal) (whole part : Recorded Message (WorkerRun σ)) :
    Prop where
  first : sends part.log <+: sends whole.log
  afterFiring : ∀ before after, part.log = before ++ after → .look false ∉ after →
    (calls after).length ≤ 1 ∧ (sends after).length ≤ 1
  fired : .look true ∈ part.log →
    ∃ m, signal = .after m ∧ looks part.log = List.replicate m false ++ [true]
  last : ∀ before after, part.log = before ++ .look true :: after → after = []

section chain

variable (policy : RetryPolicy) (call : σ → Except ApiError Json × σ) (token : Token)
  (report : String) (rounds : Nat) (signal : StopSignal) (s : σ)

/-- At most `rounds` rounds of a new chain, with their log. -/
def recordChain : Recorded Message (WorkerRun σ) :=
  recordWorker policy call report rounds (.new token) signal s

/-- What a chain sends under a signal.  The log is that of its worker; the messages in it are the
updates of the worker with the token of the chain and the name of the report, as the worker puts
them into the queue; and none of them says that the chain was cancelled. -/
structure Heeds : Prop where
  outcome : (recordChain policy call token report rounds signal s).outcome =
    runWorker policy call rounds (.new token) signal s
  tagged : sends (recordChain policy call token report rounds signal s).log =
    (runWorker policy call rounds (.new token) signal s).updates.map (Message.mk token report)
  delivered : ∀ (p : Poller) (request : RunRequest), (p.start request).1 = token →
    request.report = report →
    ((p.start request).2.workThrough
        (runWorker policy call rounds (.new token) signal s).updates).queue =
      p.queue ++ sends (recordChain policy call token report rounds signal s).log
  uncancelled : ∀ m ∈ sends (recordChain policy call token report rounds signal s).log,
    m.update ≠ .failed .cancelled
  stopsShort : StopsShort signal (recordChain policy call token report rounds .never s)
    (recordChain policy call token report rounds signal s)

/-- A signal that fires cuts a chain short. -/
theorem stopsShort_recordChain :
    StopsShort signal (recordChain policy call token report rounds .never s)
      (recordChain policy call token report rounds signal s) := by
  have hlog : (recordChain policy call token report rounds signal s).log =
      signal.cut (recordChain policy call token report rounds .never s).log :=
    (cutRun_recordWorker rounds (.new token) signal s).log
  have hunfired : Unfired (recordChain policy call token report rounds .never s).log :=
    unfired_recordWorker rounds (.new token) s
  have hspaced : Spaced (recordChain policy call token report rounds .never s).log :=
    spaced_recordWorker rounds (.new token) s
  constructor
  · rw [hlog]
    exact signal.sends_cut_prefix hunfired
  · intro before after hsplit hafter
    exact hspaced.cut hunfired (hlog ▸ hsplit) hafter
  · rw [hlog]
    intro hfired
    exact StopSignal.exists_after_of_past_none ((StopSignal.mem_cut_iff hunfired).1 hfired)
  · intro before after hsplit
    exact StopSignal.nil_of_cut_eq hunfired (hlog ▸ hsplit)

/-- A new chain is ready for its first request. -/
theorem ready_new : (Chain.new token).Ready :=
  Or.inl rfl

/-- No update of a chain says that it was cancelled. -/
theorem updates_uncancelled :
    ∀ u ∈ (recordChain policy call token report rounds .never s).outcome.updates,
      u ≠ .failed .cancelled := by
  have hprogress : ∀ (responses : List Json), ∀ u ∈ progressOf responses,
      u ≠ .failed .cancelled := by
    intro responses u hu
    obtain ⟨response, -, rfl⟩ := List.mem_map.1 hu
    nofun
  rcases going_or_ended rounds (ready_new token) s with ⟨responses, h⟩ | ⟨responses, u, h⟩
  · rw [recordChain, h.updates]
    exact hprogress responses
  · rw [recordChain, h.updates]
    obtain ⟨s₁, -, hends⟩ := h.ends
    refine List.forall_mem_append.2 ⟨hprogress responses, ?_⟩
    rw [List.forall_mem_singleton]
    cases hends with
    | completed | gaveUp => nofun
    | failed hrun hreports =>
      rintro ⟨⟩
      exact hreports.ne_cancelled rfl

/-- A chain sends its updates, with its token and the name of its report. -/
theorem sends_recordChain :
    sends (recordChain policy call token report rounds signal s).log =
      (runWorker policy call rounds (.new token) signal s).updates.map (Message.mk token report) :=
  sends_recordWorker rounds (.new token) signal s

/-- A chain heeds its signal: the record of the chain that nobody stops is cut where the signal
fires. -/
theorem heeds_recordChain : Heeds policy call token report rounds signal s := by
  have hshort := stopsShort_recordChain policy call token report rounds signal s
  refine ⟨outcome_recordWorker policy call report (.new token) signal s rounds,
    sends_recordChain policy call token report rounds signal s, ?delivered, ?uncancelled, hshort⟩
  case delivered =>
    rintro p request rfl rfl
    rw [sends_recordChain, Poller.queue_workThrough_start]
  case uncancelled =>
    intro m hm
    have hwhole := hshort.first.subset hm
    rw [sends_recordChain, ← outcome_recordWorker policy call report] at hwhole
    obtain ⟨u, hu, rfl⟩ := List.mem_map.1 hwhole
    exact updates_uncancelled policy call token report rounds s u hu

/-- What one chain sends.  If nobody stops it, it sends one update for each response of a run that
goes on and none for those of a run that waits, until it sends the last update for the first other
answer and does nothing more.  A signal cuts this short. -/
theorem chain_messages :
    ((∃ responses, StillGoing policy call rounds (.new token) s responses
        (recordChain policy call token report rounds .never s).outcome) ∨
      ∃ responses u, HasEnded policy call report rounds (.new token) s responses u
        (recordChain policy call token report rounds .never s)) ∧
    ∀ signal, Heeds policy call token report rounds signal s :=
  ⟨going_or_ended rounds (ready_new token) s, fun signal =>
    heeds_recordChain policy call token report rounds signal s⟩

end chain
end Poll
end PanelForms

import PanelForms.Poll.Worker
import PanelForms.Proofs.Backend.AttemptLog

/-!
# The log of a worker

The worker of a chain is followed round by round, with a log of its looks, calls and messages.  A
stop signal cuts this log at the first look that finds it fired, and between two looks a worker
makes at most one call and sends at most one message.

Main results:

- Definitions `Poll.recordRound` and `Poll.recordWorker`: the rounds of a worker with their log.
- Theorem `Poll.outcome_recordWorker`: the log aside, these are the rounds of the worker.
- Theorem `Poll.cutRun_recordWorker`: a signal cuts the log of a worker that is never stopped.
- Theorem `Poll.spaced_recordWorker`: between two looks there is at most one call and at most one
  message.
-/

namespace PanelForms
namespace Poll

open Attempts WorkEvent

variable {σ : Type}

/-! ## Rounds with their log -/

section record

/-- What a worker does after a request: it takes the answer, sends the message that the answer
calls for, and waits for the next round. -/
def recordAnswer (report : String) (chain : Chain) :
    Retried σ Json → Recorded Message (WorkerRun σ)
  | ⟨.error .stopped, signal, s⟩ => ⟨⟨[], true, chain.supersede, signal, s⟩, []⟩
  | ⟨.error (.failed attempts source), signal, s⟩ =>
    ⟨⟨[.failed (.transport attempts source)], true, chain.fail, signal, s⟩,
      [.send ⟨chain.token, report, .failed (.transport attempts source)⟩]⟩
  | ⟨.ok response, signal, s⟩ =>
    match signal.observe with
    | (true, signal) => ⟨⟨[], true, chain.supersede, signal, s⟩, [.look true]⟩
    | (false, signal) =>
      match chain.onResponse response with
      | (.error fault, chain) =>
        ⟨⟨[.failed fault], true, chain, signal, s⟩,
          [.look false, .send ⟨chain.token, report, .failed fault⟩]⟩
      | (.ok (.finished data), chain) =>
        ⟨⟨[.completed data], true, chain, signal, s⟩,
          [.look false, .send ⟨chain.token, report, .completed data⟩]⟩
      | (.ok (.progress data), chain) =>
        match signal.observe with
        | (true, signal) =>
          ⟨⟨[.progress data], true, chain.supersede, signal, s⟩,
            [.look false, .send ⟨chain.token, report, .progress data⟩, .look true]⟩
        | (false, signal) =>
          ⟨⟨[.progress data], false, chain, signal, s⟩,
            [.look false, .send ⟨chain.token, report, .progress data⟩, .look false]⟩
      | (.ok .repoll, chain) =>
        match signal.observe with
        | (true, signal) =>
          ⟨⟨[], true, chain.supersede, signal, s⟩, [.look false, .look true]⟩
        | (false, signal) => ⟨⟨[], false, chain, signal, s⟩, [.look false, .look false]⟩

variable (policy : RetryPolicy) (call : σ → Except ApiError Json × σ) (report : String)

/-- One round of a worker, which has ended if no other round follows. -/
def recordRound (chain : Chain) (signal : StopSignal) (s : σ) : Recorded Message (WorkerRun σ) :=
  match chain.beginRequest with
  | (false, chain) => ⟨⟨[], true, chain, signal, s⟩, []⟩
  | (true, chain) =>
    let asked := policy.record Message call signal s
    (recordAnswer report chain asked.outcome).after asked.log

/-- At most `rounds` rounds of a worker. -/
def recordWorker : (rounds : Nat) → Chain → StopSignal → σ → Recorded Message (WorkerRun σ)
  | 0, chain, signal, s => ⟨⟨[], false, chain, signal, s⟩, []⟩
  | rounds + 1, chain, signal, s =>
    let round := recordRound policy call report chain signal s
    if round.outcome.ended then round
    else
      let rest := recordWorker rounds round.outcome.chain round.outcome.signal round.outcome.state
      ⟨{ rest.outcome with updates := round.outcome.updates ++ rest.outcome.updates },
        round.log ++ rest.log⟩

variable (chain : Chain) (signal : StopSignal) (s : σ)

/-- A worker takes rounds until one of them has ended. -/
theorem runWorker_succ (rounds : Nat) :
    runWorker policy call (rounds + 1) chain signal s =
      let round := (recordRound policy call report chain signal s).outcome
      if round.ended then round
      else
        let rest := runWorker policy call rounds round.chain round.signal round.state
        { rest with updates := round.updates ++ rest.updates } := by
  rw [runWorker, recordRound]
  rcases chain.beginRequest with ⟨_ | _, chain⟩
  · rfl
  · simp only [Recorded.after, policy.outcome_record Message call signal s]
    rcases policy.run call signal s with ⟨(_ | ⟨attempts, source⟩) | response, signal, s⟩
    · rfl
    · rfl
    · rw [recordAnswer]
      rcases hlook : signal.observe with ⟨_ | _, signal⟩
      · rcases htake : chain.onResponse response with ⟨fault | (_ | data | data), chain⟩
        · simp [hlook, htake]
        · rcases hwait : signal.observe with ⟨_ | _, signal⟩ <;> simp [hlook, htake, hwait]
        · rcases hwait : signal.observe with ⟨_ | _, signal⟩ <;>
            simp [hlook, htake, hwait, WorkerRun.prepend]
        · simp [hlook, htake]
      · simp [hlook]

/-- The log aside, the recorded rounds are those of the worker. -/
theorem outcome_recordWorker (rounds : Nat) :
    (recordWorker policy call report rounds chain signal s).outcome =
      runWorker policy call rounds chain signal s := by
  induction rounds generalizing chain signal s with
  | zero => rfl
  | succ rounds ih =>
    rw [runWorker_succ policy call report, recordWorker]
    dsimp only
    split
    · rfl
    · simp only [ih]

end record

/-! ## Stopping a worker -/

/-- The record of a worker is that of a worker that is never stopped, cut where the signal
fires. -/
structure CutRun (signal : StopSignal) (whole part : Recorded Message (WorkerRun σ)) : Prop where
  log : part.log = signal.cut whole.log
  stopped : signal.past whole.log = none → part.outcome.ended = true
  kept : ∀ next, signal.past whole.log = some next →
    part.outcome = { whole.outcome with signal := next }

section stopping

variable {policy : RetryPolicy} {call : σ → Except ApiError Json × σ} {report : String}

/-- What is done with an answer is cut where the signal fires. -/
theorem cutRun_recordAnswer (report : String) (chain : Chain) (signal : StopSignal)
    (r : Retried σ Json) :
    CutRun signal (recordAnswer report chain { r with signal := .never })
      (recordAnswer report chain { r with signal := signal }) := by
  rcases r with ⟨(_ | ⟨attempts, source⟩) | response, _, s⟩
  · constructor <;> simp [recordAnswer, StopSignal.cut, StopSignal.past]
  · constructor <;> simp [recordAnswer, StopSignal.cut, StopSignal.past]
  · rcases hlook : signal.observe with ⟨_ | _, signal⟩
    · rcases htake : chain.onResponse response with ⟨fault | (_ | data | data), chain⟩
      · constructor <;> simp [recordAnswer, StopSignal.cut, StopSignal.past, hlook, htake]
      · rcases hwait : signal.observe with ⟨_ | _, signal⟩ <;>
          constructor <;> simp [recordAnswer, StopSignal.cut, StopSignal.past, hlook, htake, hwait]
      · rcases hwait : signal.observe with ⟨_ | _, signal⟩ <;>
          constructor <;> simp [recordAnswer, StopSignal.cut, StopSignal.past, hlook, htake, hwait]
      · constructor <;> simp [recordAnswer, StopSignal.cut, StopSignal.past, hlook, htake]
    · rcases htake : chain.onResponse response with ⟨fault | (_ | data | data), chain⟩ <;>
        constructor <;> simp [recordAnswer, StopSignal.cut, StopSignal.past, hlook, htake]

/-- Attempts that were stopped end the round without another look. -/
theorem recordAnswer_of_stopped (report : String) (chain : Chain) {r : Retried σ Json}
    (h : r.result = .error .stopped) :
    (recordAnswer report chain r).log = [] ∧ (recordAnswer report chain r).outcome.ended = true := by
  obtain ⟨result, signal, s⟩ := r
  cases h
  exact ⟨rfl, rfl⟩

/-- A round is cut where the signal fires, among its attempts or at a look after them. -/
theorem cutRun_recordRound (chain : Chain) (signal : StopSignal) (s : σ) :
    CutRun signal (recordRound policy call report chain .never s)
      (recordRound policy call report chain signal s) := by
  unfold recordRound
  rcases chain.beginRequest with ⟨_ | _, chain⟩
  · constructor <;> simp [StopSignal.cut, StopSignal.past]
  · have hasked := policy.cutFrom_record Message call signal s
    have hunfired := policy.unfired_record Message call s
    cases hpast : signal.past (policy.record Message call .never s).log with
    | none =>
      obtain ⟨hlog, hended⟩ := recordAnswer_of_stopped report chain (hasked.stopped hpast)
      constructor
      · simp [Recorded.after, hlog, hasked.log, StopSignal.cut_append_of_past_none hpast]
      · exact fun _ => hended
      · simp [Recorded.after, StopSignal.past_append, hpast]
    | some next =>
      have hanswer := cutRun_recordAnswer report chain next
        (policy.record Message call .never s).outcome
      have hnever : (policy.record Message call .never s).outcome =
          { (policy.record Message call .never s).outcome with signal := .never } := by
        obtain ⟨k, hrun⟩ := policy.exists_run_never call s
        rw [policy.outcome_record, hrun]
      rw [← hasked.kept next hpast, ← hnever] at hanswer
      constructor
      · simp [Recorded.after, hasked.log, StopSignal.cut_append_of_past hpast, hanswer.log]
      · simpa [Recorded.after, StopSignal.past_append, hpast] using hanswer.stopped
      · simpa [Recorded.after, StopSignal.past_append, hpast] using hanswer.kept

theorem signal_recordAnswer_never (report : String) (chain : Chain) (r : Retried σ Json)
    (h : r.signal = .never) : (recordAnswer report chain r).outcome.signal = .never := by
  obtain ⟨(_ | ⟨attempts, source⟩) | response, signal, s⟩ := r
  · exact h
  · exact h
  · obtain rfl : signal = .never := h
    rcases htake : chain.onResponse response with ⟨fault | (_ | data | data), chain⟩ <;>
      simp [recordAnswer, htake]

/-- A signal that never fires is left as it is by a round. -/
theorem signal_recordRound_never (chain : Chain) (s : σ) :
    (recordRound policy call report chain .never s).outcome.signal = .never := by
  unfold recordRound
  rcases chain.beginRequest with ⟨_ | _, chain⟩
  · rfl
  · obtain ⟨k, hrun⟩ := policy.exists_run_never call s
    refine signal_recordAnswer_never report chain _ ?_
    rw [policy.outcome_record, hrun]

/-- A signal cuts the log of a worker that is never stopped. -/
theorem cutRun_recordWorker (rounds : Nat) (chain : Chain) (signal : StopSignal) (s : σ) :
    CutRun signal (recordWorker policy call report rounds chain .never s)
      (recordWorker policy call report rounds chain signal s) := by
  induction rounds generalizing chain signal s with
  | zero => constructor <;> simp [recordWorker, StopSignal.cut, StopSignal.past]
  | succ rounds ih =>
    have hround : CutRun signal (recordRound policy call report chain .never s)
      (recordRound policy call report chain signal s) := cutRun_recordRound chain signal s
    have hnever : (recordRound policy call report chain .never s).outcome.signal = .never :=
      signal_recordRound_never chain s
    rw [recordWorker, recordWorker]
    generalize recordRound policy call report chain .never s = whole at *
    generalize recordRound policy call report chain signal s = part at *
    cases hpast : signal.past whole.log with
    | none =>
      rw [if_pos (hround.stopped hpast)]
      split
      · exact hround
      · constructor
        · simp [StopSignal.cut_append_of_past_none hpast, hround.log]
        · exact fun _ => hround.stopped hpast
        · simp [StopSignal.past_append, hpast]
    | some next =>
      have hkept := hround.kept next hpast
      by_cases hended : whole.outcome.ended = true
      · rw [if_pos hended, if_pos (by rw [hkept, hended])]
        exact hround
      · have hrest := ih whole.outcome.chain next whole.outcome.state
        rw [if_neg hended, if_neg (by rw [hkept]; exact hended)]
        simp only [hkept, hnever]
        constructor
        · simp [StopSignal.cut_append_of_past hpast, hround.log, hrest.log]
        · simpa [StopSignal.past_append, hpast] using hrest.stopped
        · intro last hlast
          have hlast' : next.past (recordWorker policy call report rounds whole.outcome.chain .never
              whole.outcome.state).log = some last := by
            simpa [StopSignal.past_append, hpast] using hlast
          rw [hrest.kept last hlast']

end stopping

/-! ## The log of a worker that is never stopped -/

section log

variable {policy : RetryPolicy} {call : σ → Except ApiError Json × σ} {report : String}

/-- A signal that never fires is found unfired by the looks after an answer. -/
theorem unfired_recordAnswer (report : String) (chain : Chain) (r : Retried σ Json)
    (h : r.signal = .never) : Unfired (recordAnswer report chain r).log := by
  obtain ⟨(_ | ⟨attempts, source⟩) | response, signal, s⟩ := r
  · simp [recordAnswer, Unfired]
  · simp [recordAnswer, Unfired]
  · obtain rfl : signal = .never := h
    rcases htake : chain.onResponse response with ⟨fault | (_ | data | data), chain⟩ <;>
      simp [recordAnswer, htake, Unfired]

/-- A signal that never fires is found unfired throughout a round. -/
theorem unfired_recordRound (chain : Chain) (s : σ) :
    Unfired (recordRound policy call report chain .never s).log := by
  unfold recordRound
  rcases chain.beginRequest with ⟨_ | _, chain⟩
  · exact List.not_mem_nil
  · obtain ⟨k, hrun⟩ := policy.exists_run_never call s
    have hanswer := unfired_recordAnswer report chain (policy.record Message call .never s).outcome
      (by rw [policy.outcome_record, hrun])
    have hasked := policy.unfired_record Message call s
    simp_all [Recorded.after, Unfired]

/-- A signal that never fires is found unfired throughout a chain. -/
theorem unfired_recordWorker (rounds : Nat) (chain : Chain) (s : σ) :
    Unfired (recordWorker policy call report rounds chain .never s).log := by
  induction rounds generalizing chain s with
  | zero => exact List.not_mem_nil
  | succ rounds ih =>
    have hround : Unfired (recordRound policy call report chain .never s).log :=
      unfired_recordRound chain s
    rw [recordWorker]
    split
    · exact hround
    · have hrest := ih (recordRound policy call report chain .never s).outcome.chain
        (recordRound policy call report chain .never s).outcome.state
      simp only [signal_recordRound_never]
      simp_all [Unfired]

/-- Between the last call for an answer and the next round, looks come between the message and
what follows it. -/
theorem spaced_recordAnswer (report : String) (chain : Chain) (r : Retried σ Json)
    (h : r.signal = .never) (k : Nat) {rest : List (WorkEvent Message)} (hrest : Spaced rest)
    (hended : (recordAnswer report chain r).outcome.ended = true → rest = []) :
    Spaced (.call k :: ((recordAnswer report chain r).log ++ rest)) := by
  have hnil : Spaced ([] : List (WorkEvent Message)) := spaced_of_length_le (by simp) (by simp)
  have hcall : Spaced ([.call k] : List (WorkEvent Message)) :=
    spaced_of_length_le (by simp) (by simp)
  have hsend : ∀ m, Spaced ([.send m] : List (WorkEvent Message)) := fun m =>
    spaced_of_length_le (by simp) (by simp)
  obtain ⟨(_ | ⟨attempts, source⟩) | response, signal, s⟩ := r
  · rw [hended rfl]
    exact hcall
  · rw [hended rfl]
    exact spaced_of_length_le (by simp [recordAnswer]) (by simp [recordAnswer])
  · obtain rfl : signal = .never := h
    rcases htake : chain.onResponse response with ⟨fault | (_ | data | data), chain⟩
    · rw [hended (by simp [recordAnswer, htake])]
      simpa [recordAnswer, htake] using hcall.append_look (hsend _)
    · simpa [recordAnswer, htake] using hcall.append_look (hnil.append_look hrest)
    · simpa [recordAnswer, htake] using hcall.append_look ((hsend _).append_look hrest)
    · rw [hended (by simp [recordAnswer, htake])]
      simpa [recordAnswer, htake] using hcall.append_look (hsend _)

/-- Between two looks a round does one thing at most, also together with what follows it, unless the
round is the last one. -/
theorem spaced_recordRound (chain : Chain) (s : σ) {rest : List (WorkEvent Message)}
    (hrest : Spaced rest)
    (hended : (recordRound policy call report chain .never s).outcome.ended = true → rest = []) :
    Spaced ((recordRound policy call report chain .never s).log ++ rest) := by
  revert hended
  unfold recordRound
  rcases chain.beginRequest with ⟨_ | _, chain⟩
  · intro hended
    rw [hended rfl]
    exact spaced_of_length_le (by simp) (by simp)
  · obtain ⟨k, -, hrecord⟩ := policy.exists_endsAt_record Message call s
    simp only [Recorded.after, hrecord]
    intro hended
    have hanswer := spaced_recordAnswer report chain
      ⟨verdict call k s, .never, stateAfter call k s⟩ rfl k hrest hended
    simpa [endingLog] using (spaced_passingLog Message 0 (k - 1)).append_look hanswer

/-- Between two looks, a worker that is never stopped makes at most one call and sends at most one
message. -/
theorem spaced_recordWorker (rounds : Nat) (chain : Chain) (s : σ) :
    Spaced (recordWorker policy call report rounds chain .never s).log := by
  induction rounds generalizing chain s with
  | zero => exact spaced_of_length_le (by simp [recordWorker]) (by simp [recordWorker])
  | succ rounds ih =>
    rw [recordWorker]
    split
    next hended =>
      have hnil : Spaced ([] : List (WorkEvent Message)) := spaced_of_length_le (by simp) (by simp)
      simpa using spaced_recordRound chain s hnil fun _ => rfl
    next hgoes =>
      simp only [signal_recordRound_never]
      exact spaced_recordRound chain s (ih _ _) fun hended => absurd hended hgoes

end log
end Poll
end PanelForms

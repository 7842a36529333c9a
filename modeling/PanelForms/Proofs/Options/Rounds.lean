import PanelForms.Proofs.Backend.AttemptLog
import PanelForms.Proofs.Options.Reading

/-!
# Rounds of asking

The backend is asked until an answer does not tell to wait.  This module follows the rounds of
asking, each with its attempts, with a log of looks and calls.  The first answer that does not tell
to wait decides what they come to, no call is made after it, and a stop signal does nothing but cut
the log.

Main results:

- Definitions `OptionList.answer` and `OptionList.Decides`: the answers of a backend that nobody
  stops, and the one that decides.
- Definition `OptionList.record`: the rounds of asking with their log.
- Theorem `OptionList.outcome_record`: the log aside, these are the rounds of `OptionList.await`.
- Theorem `OptionList.cut_record`: a signal cuts the log of rounds that are never stopped.
- Theorems `OptionList.outcome_record_of_decides` and `OptionList.calls_record_of_decides`: the
  result of rounds that nobody stops, and the calls that they make.
-/

namespace PanelForms
namespace OptionList

open Attempts WorkEvent

/-! ## The answers of a backend -/

section answers

variable {σ : Type} (policy : RetryPolicy) (call : σ → Except ApiError Json × σ) (s : σ)

/-- The state after `n` rounds of asking that nobody stops. -/
def afterRounds : Nat → σ → σ
  | 0, s => s
  | n + 1, s => afterRounds n (policy.run call .never s).state

/-- The answer of the round after `n` others. -/
def answer (n : Nat) : Except RetryError Json :=
  (policy.run call .never (afterRounds policy call n s)).result

theorem afterRounds_add (m n : Nat) :
    afterRounds policy call (m + n) s =
      afterRounds policy call n (afterRounds policy call m s) := by
  induction m generalizing s with
  | zero => rw [Nat.zero_add, afterRounds]
  | succ m ih => rw [Nat.succ_add, afterRounds, ih, afterRounds]

theorem afterRounds_succ (n : Nat) :
    afterRounds policy call (n + 1) s =
      (policy.run call .never (afterRounds policy call n s)).state :=
  afterRounds_add policy call s n 1

/-- The answers after some rounds are those that the state after them gives. -/
theorem answer_add (m n : Nat) :
    answer policy call s (m + n) = answer policy call (afterRounds policy call m s) n := by
  rw [answer, afterRounds_add, answer]

/-- How many calls the round after `n` others makes. -/
def callsIn (n : Nat) : Nat :=
  (calls (policy.record Empty call .never (afterRounds policy call n s)).log).length

/-- The answer after `n` others is the first one that does not tell to wait. -/
structure Decides (n : Nat) : Prop where
  waiting : ∀ i < n, ∃ response, answer policy call s i = .ok response ∧ Waits response
  ends : ¬ ∃ response, answer policy call s n = .ok response ∧ Waits response

/-- A round makes calls until one of them ends its attempts, which gives the answer. -/
structure Rounded (n : Nat) : Prop where
  endsAt : EndsAt (max policy.maxAttempts 1) call (afterRounds policy call n s)
    (callsIn policy call s n)
  answer_eq : answer policy call s n =
    verdict call (callsIn policy call s n) (afterRounds policy call n s)
  next_eq : (policy.run call .never (afterRounds policy call n s)).state =
    stateAfter call (callsIn policy call s n) (afterRounds policy call n s)
  calls_eq : calls (policy.record Empty call .never (afterRounds policy call n s)).log =
    List.range' 1 (callsIn policy call s n)

/-- Every round is made of the calls of one run of the policy. -/
theorem rounded (n : Nat) : Rounded policy call s n := by
  obtain ⟨k, hends, hrun, hcalls, -⟩ :=
    policy.attempts_exact Empty call (afterRounds policy call n s)
  have hk : callsIn policy call s n = k := by
    rw [callsIn, hcalls, List.length_range']
  constructor
  · rwa [hk]
  · rw [answer, hrun, hk]
  · rw [hrun, hk]
  · rw [hcalls, hk]

/-- No answer is given up for a stop while nobody stops the rounds. -/
theorem answer_ne_stopped (n : Nat) : answer policy call s n ≠ .error .stopped := by
  rw [(rounded policy call s n).answer_eq]
  exact verdict_ne_stopped call _ _

/-- An answer ends the computation exactly if it does not tell to wait. -/
theorem endOf_answer_eq_none_iff (n : Nat) :
    endOf (answer policy call s n) = none ↔
      ∃ response, answer policy call s n = .ok response ∧ Waits response :=
  endOf_eq_none_iff (answer_ne_stopped policy call s n)

variable {policy call s}

/-- The first answer decides exactly if it ends the computation. -/
theorem decides_zero_iff : Decides policy call s 0 ↔ (endOf (answer policy call s 0)).isSome := by
  rw [← Option.ne_none_iff_isSome, ne_eq, endOf_answer_eq_none_iff]
  exact ⟨fun h => h.ends, fun h => ⟨nofun, h⟩⟩

/-- A later answer decides exactly if the first one ends nothing and it decides what comes after. -/
theorem decides_succ_iff {n : Nat} :
    Decides policy call s (n + 1) ↔
      endOf (answer policy call s 0) = none ∧
        Decides policy call (policy.run call .never s).state n := by
  rw [endOf_answer_eq_none_iff]
  constructor
  · intro h
    exact ⟨h.waiting 0 (Nat.succ_pos n), fun i hi => h.waiting (i + 1) (Nat.succ_lt_succ hi),
      h.ends⟩
  · rintro ⟨hfirst, hrest⟩
    refine ⟨fun i hi => ?_, hrest.ends⟩
    cases i with
    | zero => exact hfirst
    | succ i => exact hrest.waiting i (Nat.lt_of_succ_lt_succ hi)

end answers

/-! ## Rounds with their log -/

section record

variable {σ : Type} (policy : RetryPolicy) (call : σ → Except ApiError Json × σ)

/-- What is done after the attempts of a round: unless the answer ends the computation, wait. -/
def recordAnswer (r : Retried σ Json) : Recorded Empty (Awaited σ) :=
  match endOf r.result with
  | some last => ⟨⟨some last, r.signal, r.state⟩, []⟩
  | none =>
    match r.signal.observe with
    | (true, signal) => ⟨⟨some (.error .cancelled), signal, r.state⟩, [.look true]⟩
    | (false, signal) => ⟨⟨none, signal, r.state⟩, [.look false]⟩

/-- One round of asking with its log. -/
def recordRound (signal : StopSignal) (s : σ) : Recorded Empty (Awaited σ) :=
  let asked := policy.record Empty call signal s
  (recordAnswer asked.outcome).after asked.log

/-- At most `rounds` rounds of asking with their log. -/
def record : (rounds : Nat) → StopSignal → σ → Recorded Empty (Awaited σ)
  | 0, signal, s => ⟨⟨none, signal, s⟩, []⟩
  | rounds + 1, signal, s =>
    let round := recordRound policy call signal s
    if round.outcome.result.isSome then round
    else (record rounds round.outcome.signal round.outcome.state).after round.log

variable (signal : StopSignal) (s : σ)

/-- Rounds follow each other until one of them has a result. -/
theorem await_succ (rounds : Nat) :
    await policy call (rounds + 1) signal s =
      let round := (recordRound policy call signal s).outcome
      if round.result.isSome then round else await policy call rounds round.signal round.state := by
  rw [await, recordRound]
  simp only [Recorded.after, policy.outcome_record Empty call signal s]
  rcases policy.run call signal s with ⟨e | response, signal, s⟩
  · rfl
  · rw [recordAnswer]
    rcases hresponse : outcome response with fault | (_ | data | data)
    · simp [endOf, hresponse]
    · rcases hlook : signal.observe with ⟨_ | _, signal⟩ <;> simp [endOf, hresponse, hlook]
    · rcases hlook : signal.observe with ⟨_ | _, signal⟩ <;> simp [endOf, hresponse, hlook]
    · simp [endOf, hresponse]

/-- The log aside, the recorded rounds are the rounds of asking. -/
theorem outcome_record (rounds : Nat) :
    (record policy call rounds signal s).outcome = await policy call rounds signal s := by
  induction rounds generalizing signal s with
  | zero => rfl
  | succ rounds ih =>
    rw [await_succ, record]
    dsimp only
    split
    · rfl
    · exact ih _ _

end record

/-! ## Stopping -/

/-- The record of rounds is that of rounds that are never stopped, cut where the signal fires. -/
structure CutRounds {σ : Type} (signal : StopSignal) (whole part : Recorded Empty (Awaited σ)) :
    Prop where
  log : part.log = signal.cut whole.log
  stopped : signal.past whole.log = none → part.outcome.result = some (.error .cancelled)
  kept : ∀ next, signal.past whole.log = some next →
    part.outcome = { whole.outcome with signal := next }

section stopping

variable {σ : Type} {policy : RetryPolicy} {call : σ → Except ApiError Json × σ}

/-- What is done after the attempts is cut where the signal fires. -/
theorem cut_recordAnswer (signal : StopSignal) (r : Retried σ Json) :
    CutRounds signal (recordAnswer { r with signal := .never })
      (recordAnswer { r with signal := signal }) := by
  unfold recordAnswer
  dsimp only
  cases endOf r.result with
  | some last => constructor <;> simp [StopSignal.cut, StopSignal.past]
  | none =>
    rcases hlook : signal.observe with ⟨_ | _, signal⟩ <;>
      constructor <;> simp [StopSignal.cut, StopSignal.past, hlook]

/-- A round that nobody stops has the answer for its result if that ends the computation. -/
theorem recordRound_never (s : σ) :
    (recordRound policy call .never s).outcome =
      ⟨endOf (answer policy call s 0), .never, afterRounds policy call 1 s⟩ := by
  obtain ⟨k, hrun⟩ := policy.exists_run_never call s
  unfold recordRound recordAnswer answer afterRounds
  simp only [policy.outcome_record, afterRounds, hrun, Recorded.after]
  cases endOf (verdict call k s) <;> rfl

/-- Attempts that were stopped cancel the computation without another look. -/
theorem recordAnswer_of_stopped {r : Retried σ Json} (h : r.result = .error .stopped) :
    (recordAnswer r).log = [] ∧ (recordAnswer r).outcome.result = some (.error .cancelled) := by
  obtain ⟨result, signal, s⟩ := r
  cases h
  exact ⟨rfl, rfl⟩

/-- A round is cut where the signal fires, among its attempts or at the look after them. -/
theorem cut_recordRound (signal : StopSignal) (s : σ) :
    CutRounds signal (recordRound policy call .never s) (recordRound policy call signal s) := by
  have hasked := policy.cutFrom_record Empty call signal s
  unfold recordRound
  cases hpast : signal.past (policy.record Empty call .never s).log with
  | none =>
    obtain ⟨hlog, hresult⟩ := recordAnswer_of_stopped (hasked.stopped hpast)
    constructor
    · simp [Recorded.after, hlog, hasked.log, StopSignal.cut_append_of_past_none hpast]
    · exact fun _ => hresult
    · simp [Recorded.after, StopSignal.past_append, hpast]
  | some next =>
    have hanswer := cut_recordAnswer next (policy.record Empty call .never s).outcome
    have hnever : (policy.record Empty call .never s).outcome =
        { (policy.record Empty call .never s).outcome with signal := .never } := by
      obtain ⟨k, hrun⟩ := policy.exists_run_never call s
      rw [policy.outcome_record, hrun]
    rw [← hasked.kept next hpast, ← hnever] at hanswer
    constructor
    · simp [Recorded.after, hasked.log, StopSignal.cut_append_of_past hpast, hanswer.log]
    · simpa [Recorded.after, StopSignal.past_append, hpast] using hanswer.stopped
    · simpa [Recorded.after, StopSignal.past_append, hpast] using hanswer.kept

/-- A signal cuts the log of rounds that are never stopped. -/
theorem cut_record (rounds : Nat) (signal : StopSignal) (s : σ) :
    CutRounds signal (record policy call rounds .never s) (record policy call rounds signal s) := by
  induction rounds generalizing signal s with
  | zero => constructor <;> simp [record, StopSignal.cut, StopSignal.past]
  | succ rounds ih =>
    have hround : CutRounds signal (recordRound policy call .never s)
      (recordRound policy call signal s) := cut_recordRound signal s
    have hnever : (recordRound policy call .never s).outcome.signal = .never := by
      rw [recordRound_never]
    rw [record, record]
    generalize recordRound policy call .never s = whole at *
    generalize recordRound policy call signal s = part at *
    cases hpast : signal.past whole.log with
    | none =>
      have hpart : part.outcome.result.isSome = true := by
        rw [hround.stopped hpast]
        rfl
      rw [if_pos hpart]
      split
      · exact hround
      · constructor
        · simp [Recorded.after, StopSignal.cut_append_of_past_none hpast, hround.log]
        · exact fun _ => hround.stopped hpast
        · simp [Recorded.after, StopSignal.past_append, hpast]
    | some next =>
      have hkept := hround.kept next hpast
      by_cases hended : whole.outcome.result.isSome = true
      · rw [if_pos hended, if_pos (by rw [hkept]; exact hended)]
        exact hround
      · have hrest := ih next whole.outcome.state
        rw [if_neg hended, if_neg (by rw [hkept]; exact hended)]
        simp only [hkept, hnever]
        constructor
        · simp [Recorded.after, StopSignal.cut_append_of_past hpast, hround.log, hrest.log]
        · simpa [Recorded.after, StopSignal.past_append, hpast] using hrest.stopped
        · simpa [Recorded.after, StopSignal.past_append, hpast] using hrest.kept

end stopping

/-! ## What rounds come to -/

section never

variable {σ : Type} {policy : RetryPolicy} {call : σ → Except ApiError Json × σ} {s : σ}

/-- The first answer that does not tell to wait is the last one. -/
theorem outcome_record_of_decides {n rounds : Nat} (h : Decides policy call s n) (hn : n < rounds) :
    (record policy call rounds .never s).outcome =
      ⟨endOf (answer policy call s n), .never, afterRounds policy call (n + 1) s⟩ := by
  obtain ⟨rounds, rfl⟩ : ∃ m, rounds = m + 1 := ⟨rounds - 1, by omega⟩
  induction n generalizing rounds s with
  | zero =>
    rw [record, recordRound_never, if_pos (decides_zero_iff.mp h), recordRound_never]
  | succ n ih =>
    obtain ⟨hwaits, hrest⟩ := decides_succ_iff.mp h
    obtain ⟨rounds, rfl⟩ : ∃ m, rounds = m + 1 := ⟨rounds - 1, by omega⟩
    rw [record, recordRound_never, if_neg (by simp [hwaits])]
    exact ih hrest rounds (by omega)

/-- Without such an answer there is no result. -/
theorem outcome_record_of_undecided {rounds : Nat} (h : ∀ n < rounds, ¬ Decides policy call s n) :
    (record policy call rounds .never s).outcome =
      ⟨none, .never, afterRounds policy call rounds s⟩ := by
  induction rounds generalizing s with
  | zero => rfl
  | succ rounds ih =>
    have hwaits : endOf (answer policy call s 0) = none := by
      simpa [decides_zero_iff] using h 0 (Nat.succ_pos rounds)
    rw [record, recordRound_never, if_neg (by simp [hwaits])]
    exact ih fun n hn hdecides =>
      h (n + 1) (Nat.succ_lt_succ hn) (decides_succ_iff.mpr ⟨hwaits, hdecides⟩)

/-- After its attempts a round makes no call. -/
theorem calls_recordAnswer (r : Retried σ Json) : calls (recordAnswer r).log = [] := by
  unfold recordAnswer
  split
  · rfl
  · split <;> rfl

/-- A round makes the calls of its attempts, numbered from one on. -/
theorem calls_recordRound_never (s : σ) :
    calls (recordRound policy call .never s).log = List.range' 1 (callsIn policy call s 0) := by
  rw [← (rounded policy call s 0).calls_eq, recordRound, Recorded.after, calls_append,
    calls_recordAnswer, List.append_nil]
  rfl

/-- The calls are those of every round up to the one with that answer. -/
theorem calls_record_of_decides {n rounds : Nat} (h : Decides policy call s n) (hn : n < rounds) :
    calls (record policy call rounds .never s).log =
      (List.range (n + 1)).flatMap fun i => List.range' 1 (callsIn policy call s i) := by
  obtain ⟨rounds, rfl⟩ : ∃ m, rounds = m + 1 := ⟨rounds - 1, by omega⟩
  induction n generalizing rounds s with
  | zero =>
    rw [record, recordRound_never, if_pos (decides_zero_iff.mp h), calls_recordRound_never]
    simp
  | succ n ih =>
    obtain ⟨hwaits, hrest⟩ := decides_succ_iff.mp h
    obtain ⟨rounds, rfl⟩ : ∃ m, rounds = m + 1 := ⟨rounds - 1, by omega⟩
    rw [record, recordRound_never, if_neg (by simp [hwaits]), Recorded.after, calls_append,
      calls_recordRound_never, List.range_succ_eq_map, List.flatMap_cons, List.flatMap_map]
    exact congrArg _ (ih hrest rounds (by omega))

/-- A signal that never fires is found unfired after the attempts. -/
theorem unfired_recordAnswer {r : Retried σ Json} (h : r.signal = .never) :
    Unfired (recordAnswer r).log := by
  unfold recordAnswer
  rw [h]
  split <;> simp [Unfired]

/-- A signal that never fires is found unfired throughout a round. -/
theorem unfired_recordRound (s : σ) : Unfired (recordRound policy call .never s).log := by
  have hasked := policy.unfired_record Empty call s
  have hsignal : (policy.record Empty call .never s).outcome.signal = .never := by
    obtain ⟨k, hrun⟩ := policy.exists_run_never call s
    rw [policy.outcome_record, hrun]
  simpa [recordRound, Recorded.after, Unfired] using ⟨hasked, unfired_recordAnswer hsignal⟩

/-- A signal that never fires is found unfired throughout all rounds. -/
theorem unfired_record (rounds : Nat) (s : σ) :
    Unfired (record policy call rounds .never s).log := by
  induction rounds generalizing s with
  | zero => exact List.not_mem_nil
  | succ rounds ih =>
    have hround : Unfired (recordRound policy call .never s).log := unfired_recordRound s
    rw [record, recordRound_never]
    split
    · exact hround
    · have hrest := ih (afterRounds policy call 1 s)
      simpa [Recorded.after, Unfired] using ⟨hround, hrest⟩

/-- The state after all calls is that after the first of them and then the others. -/
theorem stateAfter_add {α : Type} (call : σ → Except ApiError α × σ) (m n : Nat) (s : σ) :
    stateAfter call (m + n) s = stateAfter call n (stateAfter call m s) := by
  induction m generalizing s with
  | zero => rw [Nat.zero_add, stateAfter]
  | succ m ih => rw [Nat.succ_add, stateAfter, ih, stateAfter]

theorem state_recordAnswer (r : Retried σ Json) : (recordAnswer r).outcome.state = r.state := by
  unfold recordAnswer
  split
  · rfl
  · split <;> rfl

/-- The calls of a round are all that changes the backend. -/
theorem state_recordRound (signal : StopSignal) (s : σ) :
    (recordRound policy call signal s).outcome.state =
      stateAfter call (calls (recordRound policy call signal s).log).length s := by
  have hstate := state_loop Empty policy.attempts call 0 signal s
  simp only [recordRound, Recorded.after, state_recordAnswer, calls_append, calls_recordAnswer,
    List.append_nil]
  exact hstate

/-- The state after rounds is the state after the calls that were made. -/
theorem state_record (rounds : Nat) (signal : StopSignal) (s : σ) :
    (record policy call rounds signal s).outcome.state =
      stateAfter call (calls (record policy call rounds signal s).log).length s := by
  induction rounds generalizing signal s with
  | zero => rfl
  | succ rounds ih =>
    rw [record]
    split
    · exact state_recordRound signal s
    · simp only [Recorded.after, calls_append, List.length_append, stateAfter_add,
        ← state_recordRound]
      exact ih _ _

end never

end OptionList
end PanelForms

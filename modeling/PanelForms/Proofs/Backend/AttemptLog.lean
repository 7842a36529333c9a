import Mathlib.Data.List.Range
import PanelForms.Backend.Retry
import PanelForms.Proofs.WorkLog

/-!
# The attempts of a call

The attempts of a call are counted up from zero, and the counter is held against the limit of the
policy after every failure.  The loop that counts in this way, with a log of its looks and calls,
makes the same attempts as the policy does.  Its log shows exactly which calls are made if the
signal never fires, and that a signal only cuts this log short.

Main results:

- Definitions `Attempts.loop` and `RetryPolicy.record`: the attempts of a call with their log.
- Definition `Attempts.EndsAt`: the call that ends the attempts.
- Theorem `RetryPolicy.outcome_record`: the log aside, these are the attempts of the policy.
- Theorem `RetryPolicy.cutFrom_record`: a signal cuts the log at the first look that finds it
  fired.
- Theorem `RetryPolicy.attempts_exact`: which calls are made, and what comes of them.
-/

namespace PanelForms

open WorkEvent

variable {σ α : Type} (μ : Type)

namespace Attempts

/-! ## The loop of attempts -/

/-- The attempts of a call after the `attempt`-th one, of `limit` in all. -/
def loop (limit : Nat) (call : σ → Except ApiError α × σ) (attempt : Nat)
    (signal : StopSignal) (s : σ) : Recorded μ (Retried σ α) :=
  match signal.observe with
  | (true, signal) => ⟨⟨.error .stopped, signal, s⟩, [.look true]⟩
  | (false, signal) =>
    match call s with
    | (.ok value, s) => ⟨⟨.ok value, signal, s⟩, [.look false, .call (attempt + 1)]⟩
    | (.error e, s) =>
      if e.isTransient = false ∨ limit ≤ attempt + 1 then
        ⟨⟨.error (.failed (attempt + 1) e), signal, s⟩, [.look false, .call (attempt + 1)]⟩
      else
        match signal.observe with
        | (true, signal) =>
          ⟨⟨.error .stopped, signal, s⟩, [.look false, .call (attempt + 1), .look true]⟩
        | (false, signal) =>
          (loop limit call (attempt + 1) signal s).after
            [.look false, .call (attempt + 1), .look false]
termination_by limit - attempt

section loop

variable {call : σ → Except ApiError α × σ} {s : σ} {limit attempt : Nat} {signal : StopSignal}

/-- Without its log, the loop is the recursion of the policy. -/
theorem outcome_loop {left : Nat} (h : attempt + 1 + left = limit) :
    (loop μ limit call attempt signal s).outcome =
      RetryPolicy.runFrom call left (attempt + 1) signal s := by
  fun_induction loop μ limit call attempt signal s generalizing left with
  | case1 attempt signal s t hlook => simp [RetryPolicy.runFrom, hlook]
  | case2 attempt signal s t hlook value s' hcall => simp [RetryPolicy.runFrom, hlook, hcall]
  | case3 attempt signal s t hlook e s' hcall hlast =>
    cases left with
    | zero => simp [RetryPolicy.runFrom, hlook, hcall]
    | succ left =>
      have hlasting : e.isTransient = false := hlast.resolve_right (by omega)
      simp [RetryPolicy.runFrom, hlook, hcall, hlasting]
  | case4 attempt signal s t hlook e s' hcall hmore u hwait =>
    obtain ⟨htransient, hlimit⟩ := not_or.1 hmore
    obtain ⟨left, rfl⟩ : ∃ n, left = n + 1 := ⟨left - 1, by omega⟩
    simp [RetryPolicy.runFrom, hlook, hcall, htransient, hwait]
  | case5 attempt signal s t hlook e s' hcall hmore u hwait ih =>
    obtain ⟨htransient, hlimit⟩ := not_or.1 hmore
    obtain ⟨left, rfl⟩ : ∃ n, left = n + 1 := ⟨left - 1, by omega⟩
    rw [RetryPolicy.runFrom]
    simpa [hlook, hcall, htransient, hwait, Recorded.after] using ih (by omega)

/-! ## A call that is never stopped -/

section never

variable {value : α} {e : ApiError} {s' : σ}

/-- A call that succeeds is the last attempt. -/
theorem loop_never_of_ok (hcall : call s = (.ok value, s')) :
    loop μ limit call attempt .never s =
      ⟨⟨.ok value, .never, s'⟩, [.look false, .call (attempt + 1)]⟩ := by
  rw [loop]
  simp [hcall]

/-- A failure that does not pass, or that uses up the attempts, is the last attempt. -/
theorem loop_never_of_last (hcall : call s = (.error e, s'))
    (hlast : e.isTransient = false ∨ limit ≤ attempt + 1) :
    loop μ limit call attempt .never s =
      ⟨⟨.error (.failed (attempt + 1) e), .never, s'⟩, [.look false, .call (attempt + 1)]⟩ := by
  rw [loop]
  simp [hcall, hlast]

/-- After any other failure the loop looks at the signal once more and goes on. -/
theorem loop_never_of_more (hcall : call s = (.error e, s'))
    (hmore : ¬(e.isTransient = false ∨ limit ≤ attempt + 1)) :
    loop μ limit call attempt .never s =
      (loop μ limit call (attempt + 1) .never s').after
        [.look false, .call (attempt + 1), .look false] := by
  rw [loop]
  simp [hcall, hmore]

/-- Every loop begins with a look at the signal. -/
theorem exists_log_loop_never (limit : Nat) (call : σ → Except ApiError α × σ)
    (attempt : Nat) (s : σ) :
    ∃ rest, (loop μ limit call attempt .never s).log = .look false :: rest := by
  rcases hcall : call s with ⟨e | value, s'⟩
  · by_cases hlast : e.isTransient = false ∨ limit ≤ attempt + 1
    · exact ⟨_, by rw [loop_never_of_last μ hcall hlast]⟩
    · exact ⟨_, by rw [loop_never_of_more μ hcall hlast, Recorded.after]; rfl⟩
  · exact ⟨_, by rw [loop_never_of_ok μ hcall]⟩

end never

/-! ## Stopping a call -/

/-- The record of a call is that of a call that is never stopped, cut where the signal fires. -/
structure CutFrom {μ : Type} (signal : StopSignal) (whole part : Recorded μ (Retried σ α)) :
    Prop where
  log : part.log = signal.cut whole.log
  stopped : signal.past whole.log = none → part.outcome.result = .error .stopped
  kept : ∀ next, signal.past whole.log = some next →
    part.outcome = { whole.outcome with signal := next }

/-- Whenever the signal fires, the loop is the first part of the loop that is never stopped: before
every call and before every wait there is a look. -/
theorem cutFrom_loop (limit : Nat) (call : σ → Except ApiError α × σ) (attempt : Nat)
    (signal : StopSignal) (s : σ) :
    CutFrom signal (loop μ limit call attempt .never s)
      (loop μ limit call attempt signal s) := by
  fun_induction loop μ limit call attempt signal s with
  | case1 attempt signal s t hlook =>
    obtain ⟨rest, hrest⟩ := exists_log_loop_never μ limit call attempt s
    constructor <;> simp [hrest, StopSignal.cut, StopSignal.past, hlook]
  | case2 attempt signal s t hlook value s' hcall =>
    rw [loop_never_of_ok μ hcall]
    constructor <;> simp [StopSignal.cut, StopSignal.past, hlook]
  | case3 attempt signal s t hlook e s' hcall hlast =>
    rw [loop_never_of_last μ hcall hlast]
    constructor <;> simp [StopSignal.cut, StopSignal.past, hlook]
  | case4 attempt signal s t hlook e s' hcall hmore u hwait =>
    rw [loop_never_of_more μ hcall hmore]
    constructor <;> simp [Recorded.after, StopSignal.cut, StopSignal.past, hlook, hwait]
  | case5 attempt signal s t hlook e s' hcall hmore u hwait ih =>
    rw [loop_never_of_more μ hcall hmore]
    constructor
    · simp [Recorded.after, StopSignal.cut, hlook, hwait, ih.log]
    · simpa [Recorded.after, StopSignal.past, hlook, hwait] using ih.stopped
    · simpa [Recorded.after, StopSignal.past, hlook, hwait] using ih.kept

end loop

/-! ## Which calls are made -/

/-- The state after a number of calls. -/
def stateAfter (call : σ → Except ApiError α × σ) : Nat → σ → σ
  | 0, s => s
  | n + 1, s => stateAfter call n (call s).2

/-- What the `k`-th call gives, counted from one. -/
def outcomeOf (call : σ → Except ApiError α × σ) (k : Nat) (s : σ) : Except ApiError α :=
  (call (stateAfter call (k - 1) s)).1

/-- The result of attempts that the `k`-th call ends. -/
def verdict (call : σ → Except ApiError α × σ) (k : Nat) (s : σ) : Except RetryError α :=
  (outcomeOf call k s).mapError (.failed k)

/-- An attempt is answered; only a signal stops. -/
theorem verdict_ne_stopped (call : σ → Except ApiError α × σ) (k : Nat) (s : σ) :
    verdict call k s ≠ .error .stopped := by
  rw [verdict]
  cases outcomeOf call k s <;> simp [Except.mapError]

/-- The `k`-th call ends the attempts: it is the first one that succeeds or fails with a failure
that cannot pass, or it is the last one that the limit allows. -/
structure EndsAt (limit : Nat) (call : σ → Except ApiError α × σ) (s : σ) (k : Nat) : Prop where
  pos : 1 ≤ k
  le : k ≤ limit
  passing : ∀ i, 1 ≤ i → i < k → ∃ e, outcomeOf call i s = .error e ∧ e.MayPass
  decided : k = limit ∨ ∀ e, outcomeOf call k s = .error e → ¬ e.MayPass

/-- The log of attempts that all fail for a passing reason. -/
def passingLog (attempt : Nat) : Nat → List (WorkEvent μ)
  | 0 => []
  | n + 1 => .look false :: .call (attempt + 1) :: .look false :: passingLog (attempt + 1) n

/-- The attempts that pass are numbered one after the other. -/
theorem calls_passingLog (attempt n : Nat) :
    calls (passingLog μ attempt n) = List.range' (attempt + 1) n := by
  induction n generalizing attempt with
  | zero => rfl
  | succ n ih => simp [passingLog, ih, List.range'_succ]

/-- No look finds the signal fired while the attempts pass. -/
theorem unfired_passingLog (attempt n : Nat) : Unfired (passingLog μ attempt n) := by
  induction n generalizing attempt with
  | zero => exact List.not_mem_nil
  | succ n ih => simpa [passingLog, Unfired] using ih (attempt + 1)

/-- The log of attempts that the `k`-th call ends. -/
def endingLog (k : Nat) : List (WorkEvent μ) :=
  passingLog μ 0 (k - 1) ++ [.look false, .call k]

/-- The attempts up to the last one are numbered from one on. -/
theorem calls_endingLog {k : Nat} (hpos : 1 ≤ k) : calls (endingLog μ k) = List.range' 1 k := by
  obtain ⟨n, rfl⟩ : ∃ n, k = n + 1 := ⟨k - 1, by omega⟩
  simp [endingLog, calls_passingLog, List.range'_1_concat, Nat.add_comm]

/-- No look finds the signal fired up to the last attempt. -/
theorem unfired_endingLog (k : Nat) : Unfired (endingLog μ k) := by
  simpa [endingLog, Unfired] using unfired_passingLog μ 0 (k - 1)

/-- Attempts send no message, and are spaced out by their looks. -/
theorem sends_endingLog (k : Nat) : sends (endingLog μ k) = [] := by
  have hpassing : ∀ attempt n, sends (passingLog μ attempt n) = [] := by
    intro attempt n
    induction n generalizing attempt with
    | zero => rfl
    | succ n ih => simp [passingLog, ih]
  simp [endingLog, hpassing]

/-- Every attempt that passes stands between two looks. -/
theorem spaced_passingLog (attempt n : Nat) : Spaced (passingLog μ attempt n) := by
  induction n generalizing attempt with
  | zero => exact spaced_of_length_le (Nat.zero_le 1) (Nat.zero_le 1)
  | succ n ih =>
    have hnil : Spaced ([] : List (WorkEvent μ)) := spaced_of_length_le (by simp) (by simp)
    have hcall : Spaced ([.call (attempt + 1)] : List (WorkEvent μ)) :=
      spaced_of_length_le (by simp) (by simp)
    exact hnil.append_look (hcall.append_look (ih (attempt + 1)))

/-- The last call is made after every look. -/
theorem calls_ne_nil_of_endingLog {front rest : List (WorkEvent μ)} {k : Nat} {fired : Bool}
    (h : endingLog μ k = front ++ .look fired :: rest) : calls rest ≠ [] := by
  have hconcat : endingLog μ k = (passingLog μ 0 (k - 1) ++ [.look false]) ++ [.call k] := by
    simp [endingLog]
  rw [hconcat] at h
  rcases rest.eq_nil_or_concat with rfl | ⟨rest, event, rfl⟩
  · have hlast := (List.append_inj' h rfl).2
    cases hlast
  · rw [List.concat_eq_append, ← List.cons_append, ← List.append_assoc] at h
    have hlast := (List.append_inj' h rfl).2
    cases hlast
    simp

section exact

variable {call : σ → Except ApiError α × σ} {s : σ} {limit attempt : Nat} {signal : StopSignal}

/-- What the attempts of a call come to if nobody stops them: `n` of them fail for a passing
reason, and the next one ends them. -/
structure Unstopped (limit : Nat) (call : σ → Except ApiError α × σ) (attempt : Nat) (s : σ)
    (n : Nat) : Prop where
  le : attempt + n + 1 ≤ limit
  passing : ∀ i < n, ∃ e, (call (stateAfter call i s)).1 = .error e ∧ e.isTransient = true
  decided : attempt + n + 1 = limit ∨
    ∀ e, (call (stateAfter call n s)).1 = .error e → e.isTransient = false
  record : loop μ limit call attempt .never s =
    ⟨⟨(call (stateAfter call n s)).1.mapError (.failed (attempt + n + 1)), .never,
        stateAfter call (n + 1) s⟩,
      passingLog μ attempt n ++ [.look false, .call (attempt + n + 1)]⟩

/-- A loop that is never stopped ends after some attempts that pass and one that does not. -/
theorem exists_unstopped (left : Nat) (h : attempt + 1 + left = limit) :
    ∃ n, Unstopped μ limit call attempt s n := by
  induction left generalizing attempt s with
  | zero =>
    refine ⟨0, by omega, nofun, Or.inl (by omega), ?_⟩
    rcases hcall : call s with ⟨e | value, s'⟩
    · rw [loop_never_of_last μ hcall (Or.inr (by omega))]
      simp [stateAfter, hcall, passingLog, Except.mapError]
    · rw [loop_never_of_ok μ hcall]
      simp [stateAfter, hcall, passingLog, Except.mapError]
  | succ left ih =>
    rcases hcall : call s with ⟨e | value, s'⟩
    · cases htransient : e.isTransient with
      | false =>
        refine ⟨0, by omega, nofun, Or.inr ?_, ?_⟩
        · simp [stateAfter, hcall, htransient]
        · rw [loop_never_of_last μ hcall (Or.inl htransient)]
          simp [stateAfter, hcall, passingLog, Except.mapError]
      | true =>
        have hmore : ¬(e.isTransient = false ∨ limit ≤ attempt + 1) :=
          not_or.2 ⟨by simp [htransient], by omega⟩
        obtain ⟨n, hn⟩ : ∃ n, Unstopped μ limit call (attempt + 1) s' n := ih (by omega)
        have hshift : attempt + 1 + n + 1 = attempt + (n + 1) + 1 := by omega
        refine ⟨n + 1, hshift ▸ hn.le, ?_, ?_, ?_⟩
        · intro i hi
          cases i with
          | zero => exact ⟨e, by simp [stateAfter, hcall], htransient⟩
          | succ i =>
            obtain ⟨e', he', hpassing⟩ := hn.passing i (by omega)
            exact ⟨e', by simpa [stateAfter, hcall] using he', hpassing⟩
        · simpa [stateAfter, hcall, hshift] using hn.decided
        · rw [loop_never_of_more μ hcall hmore, hn.record]
          simp [Recorded.after, stateAfter, hcall, passingLog, hshift]
    · refine ⟨0, by omega, nofun, Or.inr ?_, ?_⟩
      · simp [stateAfter, hcall]
      · rw [loop_never_of_ok μ hcall]
        simp [stateAfter, hcall, passingLog, Except.mapError]

/-- The state after the attempts of a call is the state after the calls that were made. -/
theorem state_loop (limit : Nat) (call : σ → Except ApiError α × σ) (attempt : Nat)
    (signal : StopSignal) (s : σ) :
    (loop μ limit call attempt signal s).outcome.state =
      stateAfter call (calls (loop μ limit call attempt signal s).log).length s := by
  fun_induction loop μ limit call attempt signal s with
  | case1 attempt signal s t hlook => rfl
  | case2 attempt signal s t hlook value s' hcall => simp [stateAfter, hcall]
  | case3 attempt signal s t hlook e s' hcall hlast => simp [stateAfter, hcall]
  | case4 attempt signal s t hlook e s' hcall hmore u hwait => simp [stateAfter, hcall]
  | case5 attempt signal s t hlook e s' hcall hmore u hwait ih =>
    simpa [Recorded.after, stateAfter, hcall] using ih

/-- The first attempt that does not pass, or the last one allowed, is where the loop ends. -/
theorem Unstopped.endsAt {n : Nat} (h : Unstopped μ limit call 0 s n) :
    EndsAt limit call s (n + 1) where
  pos := Nat.le_add_left 1 n
  le := by simpa using h.le
  passing i hpos hi := by
    obtain ⟨i, rfl⟩ : ∃ j, i = j + 1 := ⟨i - 1, by omega⟩
    obtain ⟨e, he, htransient⟩ := h.passing i (by omega)
    exact ⟨e, he, e.isTransient_iff.1 htransient⟩
  decided := by simpa [outcomeOf, ApiError.isTransient_eq_false_iff] using h.decided

end exact
end Attempts

/-! ## The attempts of a policy -/

namespace RetryPolicy

open Attempts

/-- The attempts of a call with their log. -/
def record (p : RetryPolicy) (call : σ → Except ApiError α × σ) (signal : StopSignal)
    (s : σ) : Recorded μ (Retried σ α) :=
  loop μ p.attempts call 0 signal s

variable (p : RetryPolicy) (call : σ → Except ApiError α × σ) (signal : StopSignal) (s : σ)

/-- The log aside, the recorded attempts are those of the policy. -/
theorem outcome_record : (p.record μ call signal s).outcome = p.run call signal s := by
  have hpos : 1 ≤ p.attempts := Nat.le_max_right _ _
  exact outcome_loop μ (by omega)

/-- A signal cuts the log at the first look that finds it fired. -/
theorem cutFrom_record :
    CutFrom signal (p.record μ call .never s) (p.record μ call signal s) :=
  cutFrom_loop μ p.attempts call 0 signal s

/-- The attempts of a call that is never stopped, and the one that ends them. -/
theorem exists_endsAt_record :
    ∃ k, EndsAt p.attempts call s k ∧
      p.record μ call .never s = ⟨⟨verdict call k s, .never, stateAfter call k s⟩,
        endingLog μ k⟩ := by
  have hpos : 1 ≤ p.attempts := Nat.le_max_right _ _
  obtain ⟨n, hn⟩ : ∃ n, Unstopped μ p.attempts call 0 s n :=
    exists_unstopped μ (p.attempts - 1) (by omega)
  refine ⟨n + 1, hn.endsAt, ?_⟩
  rw [record, hn.record]
  simp [verdict, outcomeOf, endingLog]

/-- A call that is never stopped comes to a verdict. -/
theorem exists_run_never :
    ∃ k, p.run call .never s = ⟨verdict call k s, .never, stateAfter call k s⟩ := by
  obtain ⟨k, -, hrecord⟩ := p.exists_endsAt_record Empty call s
  exact ⟨k, by rw [← p.outcome_record Empty, hrecord]⟩

/-- A signal that never fires is found unfired by every look. -/
theorem unfired_record : Unfired (p.record μ call .never s).log := by
  obtain ⟨k, -, hrecord⟩ := p.exists_endsAt_record μ call s
  rw [hrecord]
  exact unfired_endingLog μ k

/-- Attempts send no messages of their own. -/
theorem sends_record : sends (p.record μ call signal s).log = [] := by
  obtain ⟨k, -, hrecord⟩ := p.exists_endsAt_record μ call s
  have hlog := (p.cutFrom_record μ call signal s).log
  have hprefix := signal.sends_cut_prefix (unfired_endingLog μ k)
  rw [hlog, hrecord]
  rwa [sends_endingLog, List.prefix_nil] at hprefix

/-- How the attempts of a call go under a signal, where the `k`-th call would end them.  Calls are
made up to some `n`-th one and in order; the result is the verdict of the `k`-th call if it was
made, and otherwise that a look found the signal fired, as it does after so many looks.  Nothing is
done after that look. -/
structure Heeds (k : Nat) : Prop where
  outcome : (p.record μ call signal s).outcome = p.run call signal s
  made : ∃ n ≤ k, calls (p.record μ call signal s).log = List.range' 1 n ∧
    (p.run call signal s).state = stateAfter call n s ∧
    (p.run call signal s).result = if n = k then verdict call k s else .error .stopped
  stopped_iff : (p.run call signal s).result = .error .stopped ↔
    .look true ∈ (p.record μ call signal s).log
  fired : .look true ∈ (p.record μ call signal s).log →
    ∃ m, signal = .after m ∧
      looks (p.record μ call signal s).log = List.replicate m false ++ [true]
  last : ∀ before after, (p.record μ call signal s).log = before ++ .look true :: after →
    after = []

section heeds

variable {p call signal s} {k : Nat} (hends : EndsAt p.attempts call s k)
  (hrecord : p.record μ call .never s =
    ⟨⟨verdict call k s, .never, stateAfter call k s⟩, endingLog μ k⟩)

include hrecord

/-- The log of a run is the log of the run that is never stopped, cut where the signal fires. -/
theorem log_record : (p.record μ call signal s).log = signal.cut (endingLog μ k) := by
  have hcut := (p.cutFrom_record μ call signal s).log
  rwa [hrecord] at hcut

include hends

/-- A signal that outlasts all looks changes nothing about the attempts and their result. -/
theorem made_of_past {next : StopSignal} (hpast : signal.past (endingLog μ k) = some next) :
    calls (p.record μ call signal s).log = List.range' 1 k ∧
      p.run call signal s = ⟨verdict call k s, next, stateAfter call k s⟩ := by
  have hkept := (p.cutFrom_record μ call signal s).kept
  rw [hrecord] at hkept
  constructor
  · rw [log_record μ hrecord, StopSignal.cut_of_past (unfired_endingLog μ k) hpast,
      calls_endingLog μ hends.pos]
  · rw [← p.outcome_record μ, hkept next hpast]

/-- A signal that fires among the looks stops the run after the attempts made so far, and one
attempt at least is left out. -/
theorem made_of_past_none (hpast : signal.past (endingLog μ k) = .none) :
    (p.run call signal s).result = .error .stopped ∧
      ∃ n < k, calls (p.record μ call signal s).log = List.range' 1 n := by
  have hstopped := (p.cutFrom_record μ call signal s).stopped
  rw [hrecord] at hstopped
  constructor
  · rw [← p.outcome_record μ]
    exact hstopped hpast
  · obtain ⟨front, rest, hsplit, hcut⟩ := StopSignal.cut_of_past_none (unfired_endingLog μ k) hpast
    have hrest : calls rest ≠ [] := calls_ne_nil_of_endingLog μ hsplit
    have hcalls : List.range' 1 k = calls front ++ calls rest := by
      rw [← calls_endingLog μ hends.pos, hsplit]
      simp
    obtain ⟨n, hle, hfront, hafter⟩ := List.range'_eq_append_iff.1 hcalls
    have hlt : n < k := by
      refine lt_of_le_of_ne hle fun heq => hrest ?_
      simp [hafter, heq]
    exact ⟨n, hlt, by simp [log_record μ hrecord, hcut, hfront]⟩

/-- Every run heeds its signal; the two cases are whether the signal outlasts the looks of the run
that is never stopped. -/
theorem heeds : p.Heeds μ call signal s k := by
  have hunfired := unfired_endingLog μ k
  have hlog : (p.record μ call signal s).log = signal.cut (endingLog μ k) := log_record μ hrecord
  have hmem : .look true ∈ (p.record μ call signal s).log ↔
      signal.past (endingLog μ k) = .none := by
    rw [hlog, StopSignal.mem_cut_iff hunfired]
  have hstate := state_loop μ p.attempts call 0 signal s
  rw [← record, p.outcome_record μ] at hstate
  refine ⟨p.outcome_record μ call signal s, ?made, ?stopped, ?fired, ?last⟩
  case made =>
    cases hpast : signal.past (endingLog μ k) with
    | some next =>
      obtain ⟨hcalls, hrun⟩ := made_of_past μ hends hrecord hpast
      exact ⟨k, le_refl k, hcalls, by rw [hrun], by rw [hrun, if_pos rfl]⟩
    | none =>
      obtain ⟨hstopped, n, hlt, hcalls⟩ := made_of_past_none μ hends hrecord hpast
      refine ⟨n, hlt.le, hcalls, ?_, by rw [hstopped, if_neg hlt.ne]⟩
      rw [hstate, hcalls, List.length_range']
  case stopped =>
    rw [hmem]
    cases hpast : signal.past (endingLog μ k) with
    | some next =>
      rw [(made_of_past μ hends hrecord hpast).2]
      exact iff_of_false (verdict_ne_stopped call k s) (by simp)
    | none => exact iff_of_true (made_of_past_none μ hends hrecord hpast).1 rfl
  case fired =>
    intro hfired
    rw [hlog]
    exact StopSignal.exists_after_of_past_none (hmem.1 hfired)
  case last =>
    intro before after hsplit
    exact StopSignal.nil_of_cut_eq hunfired (hlog ▸ hsplit)

end heeds

/-- Which calls the attempts of a policy make, and what comes of them.  There is a call that ends
the attempts: the first one that succeeds or fails for a reason that lasts, or the last one of at
least one that the policy allows.  Without a stop every call up to it is made, and its outcome is
the result; under a signal the attempts heed it. -/
theorem attempts_exact :
    ∃ k, EndsAt (max p.maxAttempts 1) call s k ∧
      p.run call .never s = ⟨verdict call k s, .never, stateAfter call k s⟩ ∧
      calls (p.record μ call .never s).log = List.range' 1 k ∧
      ∀ signal, p.Heeds μ call signal s k := by
  obtain ⟨k, hends, hrecord⟩ := p.exists_endsAt_record μ call s
  refine ⟨k, hends, ?_, ?_, fun signal => heeds μ hends hrecord⟩
  · rw [← p.outcome_record μ, hrecord]
  · rw [hrecord, calls_endingLog μ hends.pos]

end RetryPolicy
end PanelForms

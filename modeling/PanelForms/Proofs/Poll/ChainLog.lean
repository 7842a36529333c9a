import PanelForms.Proofs.Poll.Gating
import PanelForms.Proofs.Poll.TraceWindow

/-!
# What a coordinator logs

A coordinator logs what happens to its chains and what becomes of every message.  Its log is
consistent: it tells the life of every chain from its start over the progress applied to its one
end, it holds one entry for every message, and the part of it that the trace has kept breaks none
of the rules of traces.

Main definitions:

- `Coordinator.recorded`, `Coordinator.log`: the events that calls record.
- `Coordinator.fullLog`: the trace of some calls if it has room for all of them and is not dropped.
- `Poll.Running`, `Poll.Over`: how a log tells the life of a chain.
- `Poll.Logs`: a log agrees with the state of its coordinator.

Main results:

- Theorem `Logs.call`: every call keeps the agreement.
- Theorem `Coordinator.fullLog_eq`: the trace that drops nothing is the log.
- Theorem `Coordinator.log_consistent`: what the log tells, and that no trace breaks a rule.
-/

namespace PanelForms
namespace Poll

/-! ## What calls record -/

namespace Coordinator

/-- The events that a call records. -/
def recorded (c : Coordinator) : Call → List Event
  | .start =>
    (if c.isOpen then [.superseded c.current c.nextToken] else []) ++ [.started c.nextToken]
  | .stop => if c.isOpen then [.stopped c.current] else []
  | .clearTrace => []
  | .accept m =>
    if c.applies m then [.applied m.token m.update.kind]
    else [.staleDiscarded m.token (if c.isOpen then c.current else .none) m.update.kind]

/-- The events that some calls record, none of them dropped. -/
def log (c : Coordinator) : List Call → List Event
  | [] => []
  | a :: calls => c.recorded a ++ log (c.call a).2 calls

/-- The trace of some calls on a new coordinator, if it has room for all events and is never
dropped. -/
def fullLog (calls : List Call) : List Event :=
  ((withCapacity (2 * calls.length)).after (calls.filter (· ≠ .clearTrace))).trace.events

variable {c d : Coordinator} {m : Message}

/-- Every call but a clearing adds what it records to the trace. -/
theorem trace_call_of_ne {a : Call} (ha : a ≠ .clearTrace) :
    (c.call a).2.trace = c.trace.record (c.recorded a) := by
  cases a with
  | start =>
    cases h : c.isOpen <;> simp [call, start, recorded, Trace.record, h]
  | stop =>
    cases h : c.isOpen <;> simp [call, stop, recorded, Trace.record, h]
  | clearTrace => exact (ha rfl).elim
  | accept m =>
    cases h : c.applies m <;> simp [call, accept, recorded, Trace.record, h]

/-- What a call records does not depend on the trace. -/
theorem recorded_congr (hgate : c.gate = d.gate) (a : Call) : c.recorded a = d.recorded a := by
  obtain ⟨last, current, isOpen, trace⟩ := c
  obtain ⟨last', current', isOpen', trace'⟩ := d
  obtain ⟨rfl, rfl, rfl⟩ : last = last' ∧ current = current' ∧ isOpen = isOpen' := by
    simpa [gate] using hgate
  cases a <;> rfl

/-- What calls record depends on the gate alone. -/
theorem log_congr (hgate : c.gate = d.gate) (calls : List Call) : c.log calls = d.log calls := by
  induction calls generalizing c d with
  | nil => rfl
  | cons a calls ih => rw [log, log, recorded_congr hgate, ih (call_congr hgate a).2]

/-- A call records two events at most. -/
theorem length_recorded_le (c : Coordinator) (a : Call) : (c.recorded a).length ≤ 2 := by
  cases a with
  | start | stop => cases h : c.isOpen <;> simp [recorded, h]
  | clearTrace => simp [recorded]
  | accept m => cases h : c.applies m <;> simp [recorded, h]

/-- A trace with room for all events of some calls holds all of them, if it is not dropped. -/
theorem events_after_filter {calls : List Call}
    (hroom : c.trace.events.length + 2 * calls.length ≤ c.trace.capacity) :
    (c.after (calls.filter (· ≠ .clearTrace))).trace.events = c.trace.events ++ c.log calls := by
  induction calls generalizing c with
  | nil => simp [after, log]
  | cons a calls ih =>
    rw [List.length_cons] at hroom
    by_cases ha : a = .clearTrace
    · subst ha
      have hgate : c.clearTrace.gate = c.gate := rfl
      rw [log, call, log_congr hgate calls, List.filter_cons_of_neg (by simp)]
      exact ih (by omega)
    · have hlength := c.length_recorded_le a
      have hfits : c.trace.events.length + (c.recorded a).length ≤ c.trace.capacity := by omega
      obtain ⟨hevents, hcapacity⟩ := Trace.events_record hfits
      rw [← trace_call_of_ne ha] at hevents hcapacity
      rw [List.filter_cons_of_pos (by simpa using ha), after, ih, hevents, log,
        List.append_assoc]
      rw [hevents, hcapacity, List.length_append]
      omega

/-- The complete log is what the calls record, whatever the capacity. -/
theorem fullLog_eq (capacity : Nat) (calls : List Call) :
    fullLog calls = (withCapacity capacity).log calls := by
  have hgate : (withCapacity (2 * calls.length)).gate = (withCapacity capacity).gate := rfl
  have hroom : (withCapacity (2 * calls.length)).trace.events.length + 2 * calls.length ≤
      (withCapacity (2 * calls.length)).trace.capacity := by
    simp only [withCapacity, Trace.withCapacity, List.length_nil]
    omega
  rw [fullLog, events_after_filter hroom, log_congr hgate calls]
  rfl

/-- The trace goes on showing the end of the log. -/
theorem shows_call {log : List Event} (h : c.trace.Shows log) (a : Call) :
    (c.call a).2.trace.Shows (log ++ c.recorded a) := by
  by_cases ha : a = .clearTrace
  · subst ha
    simpa [call, clearTrace, recorded] using h.clear
  · rw [trace_call_of_ne ha]
    exact h.record _

/-- The trace always shows the end of the complete log. -/
theorem shows_after {log : List Event} (h : c.trace.Shows log) (calls : List Call) :
    (c.after calls).trace.Shows (log ++ c.log calls) := by
  induction calls generalizing c log with
  | nil => simpa [after, Coordinator.log] using h
  | cons a calls ih => simpa [after, Coordinator.log] using ih (shows_call h a)

end Coordinator

/-! ## The life of a chain -/

namespace Event

/-- The event ends a chain: the very next chain replaces it, it is stopped, or its last update is
applied. -/
def Ends (t : Token) (e : Event) : Prop :=
  e = .superseded t ⟨t.number + 1⟩ ∨ e = .stopped t ∨ e = .applied t "completed" ∨
    e = .applied t "failed"

instance (t : Token) (e : Event) : Decidable (e.Ends t) :=
  inferInstanceAs (Decidable (_ ∨ _ ∨ _ ∨ _))

/-- The event leaves a running chain running: progress of the chain is applied, or a message of
another one is discarded while this one is current. -/
def During (t : Token) (e : Event) : Prop :=
  e = .applied t "progress" ∨ ∃ u kind, u ≠ t ∧ e = .staleDiscarded u t kind

/-- The event tells nothing about a chain: it is about another one, or a message is discarded. -/
def Apart (t : Token) (e : Event) : Prop :=
  e.token = t → ∃ current kind, e = .staleDiscarded t current kind

variable {t u : Token} {e : Event}

/-- An event about another chain tells nothing about this one. -/
theorem apart_of_token_ne (h : e.token ≠ t) : e.Apart t :=
  fun heq => (h heq).elim

/-- A message that is discarded tells nothing about any chain. -/
theorem apart_staleDiscarded (t u current : Token) (kind : String) :
    (staleDiscarded u current kind).Apart t := by
  rintro rfl
  exact ⟨current, kind, rfl⟩

theorem Apart.ne_started (h : e.Apart t) : e ≠ .started t := by
  rintro rfl
  obtain ⟨current, kind, heq⟩ := h rfl
  cases heq

theorem Apart.not_ends (h : e.Apart t) : ¬ e.Ends t := by
  rintro (rfl | rfl | rfl | rfl) <;> simpa using h rfl

theorem During.ne_started (h : e.During t) : e ≠ .started t := by
  rcases h with rfl | ⟨u, kind, -, rfl⟩ <;> nofun

theorem During.not_ends (h : e.During t) : ¬ e.Ends t := by
  rcases h with rfl | ⟨u, kind, -, rfl⟩ <;> simp [Ends]

end Event

/-- The log tells of a chain that it was started once and is running: nothing but progress of it
has been applied since, and nothing before. -/
def Running (t : Token) (log : List Event) : Prop :=
  ∃ before during, log = before ++ .started t :: during ∧
    (∀ e ∈ before, e.Apart t) ∧ ∀ e ∈ during, e.During t

/-- The log tells of a chain that it was started once and has ended once: between the two nothing
but progress of it has been applied, and nothing before or after. -/
def Over (t : Token) (log : List Event) : Prop :=
  ∃ before during last after, log = before ++ .started t :: (during ++ last :: after) ∧
    (∀ e ∈ before, e.Apart t) ∧ (∀ e ∈ during, e.During t) ∧ last.Ends t ∧
      ∀ e ∈ after, e.Apart t

section life

variable {t : Token} {log more : List Event} {e : Event}

/-- A chain that the log has told nothing about is running once it is started. -/
theorem running_started (h : ∀ e ∈ log, e.Apart t) : Running t (log ++ [.started t]) :=
  ⟨log, [], rfl, h, by simp⟩

/-- A running chain is running on after events that leave it running. -/
theorem Running.append (h : Running t log) (hmore : ∀ e ∈ more, e.During t) :
    Running t (log ++ more) := by
  obtain ⟨before, during, rfl, hbefore, hduring⟩ := h
  refine ⟨before, during ++ more, by simp, hbefore, fun e he => ?_⟩
  rcases List.mem_append.1 he with he | he
  · exact hduring e he
  · exact hmore e he

/-- A running chain is over after an event that ends it, whatever is told about others then. -/
theorem Running.finish (h : Running t log) (he : e.Ends t) (hmore : ∀ x ∈ more, x.Apart t) :
    Over t (log ++ e :: more) := by
  obtain ⟨before, during, rfl, hbefore, hduring⟩ := h
  exact ⟨before, during, e, more, by simp, hbefore, hduring, he, hmore⟩

/-- A chain that is over stays over as long as nothing more is told about it. -/
theorem Over.append (h : Over t log) (hmore : ∀ e ∈ more, e.Apart t) : Over t (log ++ more) := by
  obtain ⟨before, during, last, after, rfl, hbefore, hduring, hlast, hafter⟩ := h
  refine ⟨before, during, last, after ++ more, by simp, hbefore, hduring, hlast, fun e he => ?_⟩
  rcases List.mem_append.1 he with he | he
  · exact hafter e he
  · exact hmore e he

/-- A chain has one start in the log. -/
theorem count_started (h : Running t log ∨ Over t log) : log.count (.started t) = 1 := by
  have hnone : ∀ events : List Event, (∀ e ∈ events, e ≠ .started t) →
      events.count (.started t) = 0 :=
    fun events hevents => List.count_eq_zero.2 fun hmem => hevents _ hmem rfl
  rcases h with ⟨before, during, rfl, hb, hd⟩ | ⟨before, during, last, after, rfl, hb, hd, hl, ha⟩
  · have hbefore := hnone before fun e he => (hb e he).ne_started
    have hduring := hnone during fun e he => (hd e he).ne_started
    simp [hbefore, hduring]
  · have hbefore := hnone before fun e he => (hb e he).ne_started
    have hduring := hnone during fun e he => (hd e he).ne_started
    have hafter := hnone after fun e he => (ha e he).ne_started
    have hlast : last ≠ .started t := by
      rintro rfl
      simp [Event.Ends] at hl
    simp [hbefore, hduring, hafter, hlast]

/-- A chain has no end in the log while it runs, and one end afterwards. -/
theorem countP_ends (t : Token) (log : List Event) :
    (Running t log → log.countP (·.Ends t) = 0) ∧ (Over t log → log.countP (·.Ends t) = 1) := by
  have hnone : ∀ events : List Event, (∀ e ∈ events, ¬ e.Ends t) →
      events.countP (·.Ends t) = 0 :=
    fun events hevents => List.countP_eq_zero.2 fun e he => by simpa using hevents e he
  have hstarted : ¬ (Event.started t).Ends t := by simp [Event.Ends]
  constructor
  · rintro ⟨before, during, rfl, hb, hd⟩
    have hbefore := hnone before fun e he => (hb e he).not_ends
    have hduring := hnone during fun e he => (hd e he).not_ends
    simp [hbefore, hduring, hstarted]
  · rintro ⟨before, during, last, after, rfl, hb, hd, hl, ha⟩
    have hbefore := hnone before fun e he => (hb e he).not_ends
    have hduring := hnone during fun e he => (hd e he).not_ends
    have hafter := hnone after fun e he => (ha e he).not_ends
    simp [hbefore, hduring, hafter, hstarted, hl]

end life

/-! ## The log agrees with the state -/

namespace Coordinator

variable {c : Coordinator} {t : Token}

/-- What a start records of the chain that it replaces. -/
theorem apart_replaced (hcurrent : c.isOpen = true → c.current ≠ t) :
    ∀ e ∈ (if c.isOpen then [Event.superseded c.current c.nextToken] else []), e.Apart t := by
  intro e he
  split at he
  next hopen =>
    rw [List.mem_singleton.1 he]
    exact Event.apart_of_token_ne (hcurrent hopen)
  next => cases he

/-- What a call records tells nothing about a chain that is neither the current one nor started by
the call. -/
theorem apart_recorded {a : Call} (hcurrent : c.isOpen = true → c.current ≠ t)
    (hstart : a = .start → c.nextToken ≠ t) : ∀ e ∈ c.recorded a, e.Apart t := by
  intro e he
  cases a with
  | start =>
    rcases List.mem_append.1 he with he | he
    · exact apart_replaced hcurrent e he
    · rw [List.mem_singleton.1 he]
      exact Event.apart_of_token_ne (hstart rfl)
  | stop =>
    rw [recorded] at he
    split at he
    next hopen =>
      rw [List.mem_singleton.1 he]
      exact Event.apart_of_token_ne (hcurrent hopen)
    next => cases he
  | clearTrace => cases he
  | accept m =>
    rw [recorded] at he
    split at he
    next happlies =>
      obtain ⟨hopen, htoken⟩ := applies_iff.1 happlies
      rw [List.mem_singleton.1 he]
      exact Event.apart_of_token_ne (htoken ▸ hcurrent hopen)
    next =>
      rw [List.mem_singleton.1 he]
      exact Event.apart_staleDiscarded _ _ _ _

end Coordinator

/-- A log agrees with the state of its coordinator: the current chain is running while the
coordinator is open, all other chains started are over, and nothing is told about chains to come. -/
structure Logs (c : Coordinator) (log : List Event) : Prop where
  /-- The latest start is the one of the last chain. -/
  latest : latestIn .none log = ⟨c.lastToken⟩
  /-- While the coordinator is open, the last chain is the current one. -/
  current : c.isOpen = true → c.current = ⟨c.lastToken⟩
  /-- Nothing is told about chains to come. -/
  ahead : ∀ t : Token, c.lastToken < t.number → ∀ e ∈ log, e.Apart t
  /-- While the coordinator is open, the current chain is running. -/
  running : c.isOpen = true → Running c.current log
  /-- Every other chain is over. -/
  ended : ∀ t : Token, 0 < t.number → t.number ≤ c.lastToken →
    (c.isOpen = true → c.current ≠ t) → Over t log

namespace Logs

variable {c : Coordinator} {log : List Event} {m : Message}

theorem new (capacity : Nat) : Logs (.withCapacity capacity) [] where
  latest := rfl
  current := nofun
  ahead := by simp
  running := nofun
  ended t hpos hle := absurd hpos (Nat.not_lt_of_le hle)

/-- The trace does not matter to the agreement. -/
theorem withTrace (h : Logs c log) (trace : Trace) : Logs { c with trace := trace } log :=
  ⟨h.latest, h.current, h.ahead, h.running, h.ended⟩

/-- A chain to come is not the current one. -/
theorem current_ne (h : Logs c log) {t : Token} (ht : c.lastToken < t.number) :
    c.isOpen = true → c.current ≠ t := by
  rintro hopen rfl
  rw [h.current hopen] at ht
  exact Nat.lt_irrefl _ ht

/-- Nothing is told about chains to come after one more call. -/
theorem ahead_append (h : Logs c log) {a : Call} {t : Token} (ht : c.lastToken < t.number)
    (hstart : a = .start → c.nextToken ≠ t) : ∀ e ∈ log ++ c.recorded a, e.Apart t := by
  intro e he
  rcases List.mem_append.1 he with he | he
  · exact h.ahead t ht e he
  · exact Coordinator.apart_recorded (h.current_ne ht) hstart e he

/-- A chain that is over stays over. -/
theorem over_append (h : Logs c log) {a : Call} {t : Token} (hpos : 0 < t.number)
    (hle : t.number ≤ c.lastToken) (hother : c.isOpen = true → c.current ≠ t) :
    Over t (log ++ c.recorded a) := by
  refine (h.ended t hpos hle hother).append (Coordinator.apart_recorded hother fun _ => ?_)
  rintro rfl
  exact Nat.not_succ_le_self _ hle

/-- The chain that is replaced is over once the next one has been started. -/
theorem over_replaced (h : Logs c log) (hopen : c.isOpen = true) :
    Over c.current (log ++ c.recorded .start) := by
  have hsuccessor : c.nextToken = ⟨c.current.number + 1⟩ := by
    rw [h.current hopen]
    rfl
  have hnew : c.lastToken < c.nextToken.number := Nat.lt_succ_self _
  rw [Coordinator.recorded, if_pos hopen]
  refine (h.running hopen).finish (Or.inl (by rw [← hsuccessor])) fun e he => ?_
  rw [List.mem_singleton.1 he]
  exact Event.apart_of_token_ne (Ne.symm (h.current_ne hnew hopen))

/-- A start ends the current chain in the log, if there is one, and begins the next. -/
theorem start (h : Logs c log) : Logs c.start (log ++ c.recorded .start) := by
  have hlast : c.start.lastToken = c.lastToken + 1 := rfl
  have hnew : c.lastToken < c.nextToken.number := Nat.lt_succ_self _
  refine ⟨?_, fun _ => rfl, fun t ht => ?_, fun _ => ?_, fun t hpos hle hother => ?_⟩
  · rw [latestIn_append, Coordinator.recorded, latestIn_append]
    rfl
  · rw [hlast] at ht
    refine h.ahead_append (Nat.lt_of_succ_lt ht) fun _ => ?_
    rintro rfl
    exact Nat.lt_irrefl _ ht
  · -- The events before the new start are those recorded earlier and the end of the chain replaced.
    rw [Coordinator.recorded, ← List.append_assoc]
    refine running_started fun e he => ?_
    rcases List.mem_append.1 he with he | he
    · exact h.ahead _ hnew e he
    · exact Coordinator.apart_replaced (h.current_ne hnew) e he
  · have hbefore : t.number ≤ c.lastToken := by
      refine Nat.le_of_lt_succ (Nat.lt_of_le_of_ne hle fun heq => hother rfl ?_)
      obtain ⟨number⟩ := t
      exact congrArg Token.mk heq.symm
    by_cases hreplaces : c.isOpen = true ∧ c.current = t
    · obtain ⟨hopen, rfl⟩ := hreplaces
      exact h.over_replaced hopen
    · exact h.over_append hpos hbefore fun hopen heq => hreplaces ⟨hopen, heq⟩

/-- A stop ends the current chain in the log, if there is one. -/
theorem stop (h : Logs c log) : Logs c.stop (log ++ c.recorded .stop) := by
  refine ⟨?_, nofun, fun t ht => h.ahead_append ht nofun, nofun, fun t hpos hle _ => ?_⟩
  · rw [latestIn_append, h.latest, Coordinator.recorded]
    split <;> rfl
  · by_cases hstops : c.isOpen = true ∧ c.current = t
    · obtain ⟨hopen, rfl⟩ := hstops
      rw [Coordinator.recorded, if_pos hopen]
      exact (h.running hopen).finish (Or.inr (Or.inl rfl)) (by simp)
    · exact h.over_append hpos hle fun hopen heq => hstops ⟨hopen, heq⟩

/-- A message that is applied leaves its chain running, or ends it. -/
theorem applied_during_or_ends (m : Message) :
    (m.update.isTerminal = false ∧ (Event.applied m.token m.update.kind).During m.token) ∨
      (m.update.isTerminal = true ∧ (Event.applied m.token m.update.kind).Ends m.token) := by
  obtain ⟨t, report, update⟩ := m
  cases update with
  | progress => exact Or.inl ⟨rfl, Or.inl rfl⟩
  | completed => exact Or.inr ⟨rfl, Or.inr (Or.inr (Or.inl rfl))⟩
  | failed => exact Or.inr ⟨rfl, Or.inr (Or.inr (Or.inr rfl))⟩

/-- A message that is applied is progress of the current chain, or its end. -/
theorem applied (h : Logs c log) (happlies : c.applies m = true) :
    Logs (c.accept m).2 (log ++ c.recorded (.accept m)) := by
  obtain ⟨hopen, htoken⟩ := Coordinator.applies_iff.1 happlies
  have hrecorded : c.recorded (.accept m) = [.applied m.token m.update.kind] := by
    simp [Coordinator.recorded, happlies]
  have hrunning : Running m.token log := htoken ▸ h.running hopen
  rw [Coordinator.accept_of_applies happlies]
  refine ⟨?_, fun _ => h.current hopen, fun t ht => h.ahead_append ht nofun, fun hstill => ?_,
    fun t hpos hle hother => ?_⟩
  · rw [latestIn_append, h.latest, hrecorded]
    rfl
  · rw [hrecorded, htoken]
    rcases applied_during_or_ends m with ⟨-, hduring⟩ | ⟨hterminal, -⟩
    · exact hrunning.append fun e he => List.mem_singleton.1 he ▸ hduring
    · simp [hterminal] at hstill
  · by_cases ht : c.current = t
    · subst ht
      rcases applied_during_or_ends m with ⟨hterminal, -⟩ | ⟨-, hends⟩
      · exact (hother (by simp [hterminal]) rfl).elim
      · rw [hrecorded, htoken]
        exact hrunning.finish hends (by simp)
    · exact h.over_append hpos hle fun _ => ht

/-- A message that is discarded tells nothing. -/
theorem discarded (h : Logs c log) (happlies : c.applies m = false) :
    Logs (c.accept m).2 (log ++ c.recorded (.accept m)) := by
  obtain ⟨trace, heq⟩ := Coordinator.accept_of_not_applies happlies
  have hrecorded : c.recorded (.accept m) =
      [.staleDiscarded m.token (if c.isOpen then c.current else .none) m.update.kind] := by
    simp [Coordinator.recorded, happlies]
  have hlogs : Logs c (log ++ c.recorded (.accept m)) := by
    refine ⟨?_, h.current, fun t ht => h.ahead_append ht nofun, fun hopen => ?_,
      fun t hpos hle hother => h.over_append hpos hle hother⟩
    · rw [latestIn_append, h.latest, hrecorded]
      rfl
    · -- The message is not one of the current chain, else it would be applied.
      have hne : m.token ≠ c.current := by
        intro hsame
        rw [Coordinator.applies_iff.2 ⟨hopen, hsame.symm⟩] at happlies
        cases happlies
      refine (h.running hopen).append fun e he => Or.inr ⟨m.token, m.update.kind, hne, ?_⟩
      rw [hrecorded, if_pos hopen] at he
      exact List.mem_singleton.1 he
  rw [heq]
  exact hlogs.withTrace trace

/-- Every call keeps the agreement between the log and the state. -/
theorem call (h : Logs c log) (a : Call) : Logs (c.call a).2 (log ++ c.recorded a) := by
  cases a with
  | start => exact h.start
  | stop => exact h.stop
  | clearTrace =>
    rw [Coordinator.recorded, List.append_nil]
    exact h.withTrace c.trace.clear
  | accept m =>
    cases happlies : c.applies m with
    | true =>
      have happlied := h.applied happlies
      rw [Coordinator.accept_of_applies happlies] at happlied
      simpa [Coordinator.call, Coordinator.accept_of_applies happlies] using happlied
    | false =>
      obtain ⟨trace, heq⟩ := Coordinator.accept_of_not_applies happlies
      have hdiscarded := h.discarded happlies
      rw [heq] at hdiscarded
      simpa [Coordinator.call, heq] using hdiscarded

/-- Log and state agree after any calls. -/
theorem after (h : Logs c log) (calls : List Call) : Logs (c.after calls) (log ++ c.log calls) := by
  induction calls generalizing c log with
  | nil => simpa [Coordinator.after, Coordinator.log] using h
  | cons a calls ih => simpa [Coordinator.after, Coordinator.log] using ih (h.call a)

/-- What a call records breaks no rule, unless it discards a message without a token. -/
theorem violations_recorded (h : Logs c log) {a : Call}
    (ha : ∀ m, a = .accept m → m.token ≠ .none) :
    violations (latestIn .none log) (c.recorded a) = [] := by
  rw [h.latest]
  cases a with
  | start =>
    rw [Coordinator.recorded, violations_append]
    cases hopen : c.isOpen <;>
      simp [violations, violation?, Event.latestStart, Coordinator.nextToken]
  | stop => cases hopen : c.isOpen <;> simp [Coordinator.recorded, violations, violation?, hopen]
  | clearTrace => rfl
  | accept m =>
    cases happlies : c.applies m with
    | true =>
      obtain ⟨hopen, htoken⟩ := Coordinator.applies_iff.1 happlies
      have hlatest : m.token = ⟨c.lastToken⟩ := htoken.symm.trans (h.current hopen)
      simp [Coordinator.recorded, happlies, violations, violation?, hlatest]
    | false =>
      have hne : m.token ≠ if c.isOpen then c.current else .none := by
        intro hsame
        cases hopen : c.isOpen with
        | true =>
          rw [if_pos hopen] at hsame
          rw [Coordinator.applies_iff.2 ⟨hopen, hsame.symm⟩] at happlies
          cases happlies
        | false =>
          rw [hopen] at hsame
          exact ha m rfl hsame
      simp [Coordinator.recorded, happlies, violations, violation?, hne]

/-- A log that goes on from one that agrees breaks no rule, as long as every message is of some
chain. -/
theorem violations_log (h : Logs c log) {calls : List Call}
    (hcalls : ∀ m, .accept m ∈ calls → m.token ≠ .none) :
    violations (latestIn .none log) (c.log calls) = [] := by
  induction calls generalizing c log with
  | nil => rfl
  | cons a calls ih =>
    have hhead : ∀ m, a = .accept m → m.token ≠ .none :=
      fun m ha => hcalls m (ha ▸ List.mem_cons_self)
    rw [Coordinator.log, violations_append, h.violations_recorded hhead, ← latestIn_append,
      List.nil_append]
    exact ih (h.call a) fun m hm => hcalls m (List.mem_cons_of_mem a hm)

end Logs

/-! ## What becomes of every message -/

/-- The message that an event decides, by its token and its kind, and whether it is applied. -/
def Event.verdict? : Event → Option (Token × String × Bool)
  | .applied t kind => some (t, kind, true)
  | .staleDiscarded t _ kind => some (t, kind, false)
  | _ => none

/-- The message that is handed in, by its token and its kind, and whether it is applied. -/
def Entry.verdict? : Entry → Option (Token × String × Bool)
  | .applied m => some (m.token, m.update.kind, true)
  | .discarded m => some (m.token, m.update.kind, false)
  | _ => none

namespace Coordinator

/-- A message is decided by one event, and no other call records such an event. -/
theorem filterMap_verdict?_recorded (c : Coordinator) (a : Call) :
    (c.recorded a).filterMap Event.verdict? = (c.call a).1.verdict?.toList := by
  cases a with
  | start => cases h : c.isOpen <;> simp [recorded, call, Event.verdict?, Entry.verdict?, h]
  | stop => cases h : c.isOpen <;> simp [recorded, call, Event.verdict?, Entry.verdict?, h]
  | clearTrace => rfl
  | accept m =>
    cases h : c.applies m <;> simp [recorded, call, accept, Event.verdict?, Entry.verdict?, h]

/-- The log decides the messages that were handed in, in their order. -/
theorem filterMap_verdict?_log (c : Coordinator) (calls : List Call) :
    (c.log calls).filterMap Event.verdict? = (c.history calls).filterMap Entry.verdict? := by
  induction calls generalizing c with
  | nil => rfl
  | cons a calls ih =>
    rw [log, history, List.filterMap_append, filterMap_verdict?_recorded, ih, List.filterMap_cons]
    cases (c.call a).1.verdict? <;> rfl

/-- A start returns no empty token. -/
theorem pos_of_mem_starts {c : Coordinator} {calls : List Call} {t : Token}
    (ht : t ∈ starts (c.history calls)) : 0 < t.number := by
  obtain ⟨entry, hentry, hstart⟩ := List.mem_filterMap.1 ht
  induction calls generalizing c with
  | nil => cases hentry
  | cons a calls ih =>
    rcases List.mem_cons.1 hentry with rfl | hlater
    · cases a with
      | start =>
        cases hstart
        exact Nat.succ_pos _
      | stop | clearTrace => cases hstart
      | accept m =>
        cases h : c.applies m <;> simp [call, accept, h, Entry.start?] at hstart
    · exact ih (List.mem_filterMap.2 ⟨entry, hlater, hstart⟩) hlater

end Coordinator

/-! ## What the log tells -/

/-- What the complete log of some calls tells, whatever the capacity of the trace. -/
structure Consistent (capacity : Nat) (calls : List Call) : Prop where
  /-- Of every chain started it tells one start, nothing but progress until the chain ends, its end,
  and nothing afterwards; and the chain has ended unless it is live. -/
  lives : ∀ t ∈ starts ((Coordinator.withCapacity capacity).history calls),
    (Live ((Coordinator.withCapacity capacity).history calls) t ∧
        Running t (Coordinator.fullLog calls)) ∨
      (¬ Live ((Coordinator.withCapacity capacity).history calls) t ∧
        Over t (Coordinator.fullLog calls))
  /-- Every chain started has one start. -/
  started_once : ∀ t ∈ starts ((Coordinator.withCapacity capacity).history calls),
    (Coordinator.fullLog calls).count (.started t) = 1
  /-- Every chain started has one end at most. -/
  ended_once : ∀ t ∈ starts ((Coordinator.withCapacity capacity).history calls),
    (Coordinator.fullLog calls).countP (·.Ends t) ≤ 1
  /-- Every message handed in has one event, which tells whether it was applied or discarded. -/
  verdicts : (Coordinator.fullLog calls).filterMap Event.verdict? =
    ((Coordinator.withCapacity capacity).history calls).filterMap Entry.verdict?

/-- A chain that was started is running in the log while it is live, and over afterwards. -/
theorem Logs.lives {c : Coordinator} {log : List Event} {h : List Entry} (hl : Logs c log)
    (hr : Reflects c h) {t : Token} (ht : t ∈ starts h) (hpos : 0 < t.number) :
    (Live h t ∧ Running t log) ∨ (¬ Live h t ∧ Over t log) := by
  by_cases hlive : Live h t
  · obtain ⟨hopen, rfl⟩ := (hr.live_iff t).1 hlive
    exact Or.inl ⟨hlive, hl.running hopen⟩
  · refine Or.inr ⟨hlive, hl.ended t hpos (hr.starts_le t ht) fun hopen heq => hlive ?_⟩
    exact (hr.live_iff t).2 ⟨hopen, heq⟩

/-- After any calls that hand in messages of chains only, whatever the capacity of the trace and
however often it has been dropped, what the trace has kept breaks no rule.  And the complete log of
the calls, of which nothing was dropped, tells the life of every chain and the fate of every
message. -/
theorem Coordinator.log_consistent (capacity : Nat) (calls : List Call)
    (hcalls : ∀ m, .accept m ∈ calls → m.token ≠ .none) :
    ((withCapacity capacity).after calls).trace.faults = [] ∧ Consistent capacity calls := by
  have hlogs : Logs ((withCapacity capacity).after calls) (fullLog calls) := by
    rw [fullLog_eq capacity]
    exact (Logs.new capacity).after calls
  have hreflects : Reflects ((withCapacity capacity).after calls)
      ((withCapacity capacity).history calls) := (Reflects.new capacity).after calls
  have hlives := fun (t : Token) (ht : t ∈ starts ((withCapacity capacity).history calls)) =>
    hlogs.lives hreflects ht (pos_of_mem_starts ht)
  refine ⟨?_, hlives, fun t ht => count_started ?_, fun t ht => ?_, ?_⟩
  · have hnew : (withCapacity capacity).trace.Shows [] := Trace.shows_withCapacity capacity
    have hfaults := (shows_after hnew calls).faults_sublist
    have hlawful : violations .none ((withCapacity capacity).log calls) = [] :=
      (Logs.new capacity).violations_log hcalls
    rw [List.nil_append, hlawful] at hfaults
    exact List.sublist_nil.1 hfaults
  · rcases hlives t ht with ⟨-, hrunning⟩ | ⟨-, hover⟩
    · exact Or.inl hrunning
    · exact Or.inr hover
  · rcases hlives t ht with ⟨-, hrunning⟩ | ⟨-, hover⟩
    · exact Nat.le_trans (Nat.le_of_eq ((countP_ends t _).1 hrunning)) (Nat.zero_le 1)
    · exact Nat.le_of_eq ((countP_ends t _).2 hover)
  · rw [fullLog_eq capacity]
    exact filterMap_verdict?_log _ calls

/-- A chain is replaced, its last update comes too late, and the trace is dropped before the second
chain ends. -/
def Call.overtaken : List Call :=
  [.start, .accept ⟨⟨1⟩, "beam", .progress .null⟩, .start,
    .accept ⟨⟨1⟩, "beam", .completed .null⟩, .clearTrace,
    .accept ⟨⟨2⟩, "beam", .completed .null⟩, .stop]

/-- The log of these calls is consistent, though the trace has room for two events only and was
dropped. -/
theorem Coordinator.log_consistent_overtaken :
    (∀ m, .accept m ∈ Call.overtaken → m.token ≠ .none) ∧
      ((withCapacity 2).after Call.overtaken).trace.faults = [] ∧
      Consistent 2 Call.overtaken := by
  have hcalls : ∀ m, .accept m ∈ Call.overtaken → m.token ≠ .none := by
    intro m hm
    simp only [Call.overtaken, List.mem_cons, Call.accept.injEq, reduceCtorEq, false_or,
      List.not_mem_nil, or_false] at hm
    rcases hm with rfl | rfl | rfl <;> decide
  exact ⟨hcalls, log_consistent 2 Call.overtaken hcalls⟩

/-- A message without a token must not be handed in: while no chain is current, discarding it reads
as discarding a message of the current chain. -/
example :
    ((Coordinator.withCapacity 2).after [.accept ⟨.none, "beam", .progress .null⟩]).trace.faults =
      [.currentDiscarded .none] := by
  decide

end Poll
end PanelForms

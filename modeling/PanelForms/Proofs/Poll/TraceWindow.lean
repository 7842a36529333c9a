import PanelForms.Poll.Trace

/-!
# The window of a trace on its log

A trace keeps the most recent of all events ever recorded, and with them the latest start before
the first event kept.  What was recorded is spoken of here as the complete log, from which nothing
was dropped: the trace shows the end of it, and the rules that it finds broken are those that the
complete log breaks there.

Main definitions:

- `Poll.latestIn`: the latest start in a log.
- `Trace.record`: record several events.
- `Trace.Keeps`, `Trace.Shows`: a trace shows the end of a log.

Main results:

- Theorem `Poll.violations_append`: the rules that a log breaks, part by part.
- Theorems `Trace.Shows.record` and `Trace.Shows.clear`: a trace goes on showing the end of its log.
- Theorem `Trace.Shows.faults_sublist`: dropping events invents no broken rule.
-/

namespace PanelForms
namespace Poll

/-- The latest start after some events. -/
def latestIn (latest : Token) (log : List Event) : Token :=
  log.foldl Event.latestStart latest

@[simp]
theorem latestIn_nil (latest : Token) : latestIn latest [] = latest :=
  rfl

@[simp]
theorem latestIn_cons (latest : Token) (e : Event) (log : List Event) :
    latestIn latest (e :: log) = latestIn (e.latestStart latest) log :=
  rfl

theorem latestIn_append (latest : Token) (log more : List Event) :
    latestIn latest (log ++ more) = latestIn (latestIn latest log) more :=
  List.foldl_append

/-- What the second part of a log breaks is judged after the latest start of the first part. -/
theorem violations_append (latest : Token) (log more : List Event) :
    violations latest (log ++ more) =
      violations latest log ++ violations (latestIn latest log) more := by
  induction log generalizing latest with
  | nil => rfl
  | cons e log ih => simp only [List.cons_append, violations, latestIn_cons, ih, List.append_assoc]

namespace Trace

variable {t : Trace} {log : List Event}

/-- Record several events. -/
def record (t : Trace) (events : List Event) : Trace :=
  events.foldl push t

/-- The events kept are the end of the log, and the latest start before them is known. -/
def Keeps (t : Trace) (log : List Event) : Prop :=
  ∃ dropped, log = dropped ++ t.events ∧ t.base = latestIn .none dropped

/-- The trace keeps the end of the log, and knows the latest start of all. -/
structure Shows (t : Trace) (log : List Event) : Prop where
  keeps : t.Keeps log
  lastStarted : t.lastStarted = latestIn .none log

/-- A new trace shows an empty log. -/
theorem shows_withCapacity (capacity : Nat) : (withCapacity capacity).Shows [] where
  keeps := ⟨[], rfl, rfl⟩
  lastStarted := rfl

@[simp]
theorem lastStarted_makeRoom (t : Trace) : t.makeRoom.lastStarted = t.lastStarted := by
  unfold makeRoom
  split
  · split <;> rfl
  · rfl

@[simp]
theorem capacity_makeRoom (t : Trace) : t.makeRoom.capacity = t.capacity := by
  unfold makeRoom
  split
  · split <;> rfl
  · rfl

/-- An oldest event that is dropped goes to those dropped before. -/
theorem Keeps.makeRoom (h : t.Keeps log) : t.makeRoom.Keeps log := by
  obtain ⟨dropped, hlog, hbase⟩ := h
  unfold Trace.makeRoom
  split
  · split
    next => exact ⟨dropped, hlog, hbase⟩
    next oldest rest hevents =>
      refine ⟨dropped ++ [oldest], ?_, ?_⟩
      · simp [hlog, hevents]
      · simp [latestIn_append, hbase]
  · exact ⟨dropped, hlog, hbase⟩

/-- One more event is kept, behind what there is room for of the others. -/
theorem Keeps.push (h : t.Keeps log) (e : Event) : (t.push e).Keeps (log ++ [e]) := by
  -- What is kept does not depend on the latest start of all, which is noted before room is made.
  have hnoted : ({ t with lastStarted := e.latestStart t.lastStarted } : Trace).Keeps log := h
  obtain ⟨dropped, hlog, hbase⟩ := hnoted.makeRoom
  refine ⟨dropped, ?_, hbase⟩
  rw [hlog, List.append_assoc]
  rfl

/-- One more event is shown, behind what there is room for of the others. -/
theorem Shows.push (h : t.Shows log) (e : Event) : (t.push e).Shows (log ++ [e]) where
  keeps := h.keeps.push e
  lastStarted := by simp [Trace.push, latestIn_append, h.lastStarted]

/-- Events are shown one after the other. -/
theorem Shows.record (h : t.Shows log) (events : List Event) :
    (t.record events).Shows (log ++ events) := by
  induction events generalizing t log with
  | nil => simpa [Trace.record] using h
  | cons e events ih => simpa [Trace.record] using ih (h.push e)

/-- Dropping all events leaves nothing to show, and what is checked later continues from the latest
start. -/
theorem Shows.clear (h : t.Shows log) : t.clear.Shows log where
  keeps := ⟨log, by simp [Trace.clear], h.lastStarted⟩
  lastStarted := h.lastStarted

/-- The rules that a trace finds broken are among those that the complete log breaks. -/
theorem Shows.faults_sublist (h : t.Shows log) : t.faults.Sublist (violations .none log) := by
  obtain ⟨dropped, hlog, hbase⟩ := h.keeps
  rw [hlog, violations_append, faults, hbase]
  exact List.sublist_append_right _ _

/-- As long as there is room, nothing is dropped. -/
theorem events_record {events : List Event}
    (hroom : t.events.length + events.length ≤ t.capacity) :
    (t.record events).events = t.events ++ events ∧ (t.record events).capacity = t.capacity := by
  induction events generalizing t with
  | nil => simp [record]
  | cons e events ih =>
    have hlt : t.events.length ≠ t.capacity := by
      rw [List.length_cons] at hroom
      omega
    have hpush : (t.push e).events = t.events ++ [e] := by simp [push, makeRoom, hlt]
    have hcapacity : (t.push e).capacity = t.capacity := by simp [push]
    obtain ⟨hevents, hsame⟩ := ih (t := t.push e) (by
      simp only [hpush, hcapacity, List.length_append, List.length_cons, List.length_nil] at *
      omega)
    exact ⟨by simpa [record, hpush] using hevents, hsame.trans hcapacity⟩

end Trace
end Poll
end PanelForms

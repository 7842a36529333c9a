import Mathlib.Data.List.DropRight
import Mathlib.Data.List.ReduceOption
import PanelForms.Proofs.Poll.TraceWindow

/-!
# Trimming a trace

A trace forgets: a full one drops its oldest event with every event that is pushed, and clearing
drops all events at once.  It is compared here with the complete log, which holds every event since
the very first one.  Each event of the complete log has one verdict, passed in view of the latest
start before it, and the trace reports exactly the verdicts on the events that it has kept.  Nothing
is assumed about the events: they need not be those of a coordinator.

Main definitions:

- `Poll.verdicts`: the verdict on every event of a log, place by place.
- `Trace.Call`, `Trace.after`: pushing and clearing, and a trace after some calls.
- `Trace.pushed`, `Trace.sinceClear`: the complete log, and what was pushed since the latest clear.

Main results:

- Theorem `Poll.violations_eq`: the rules that a log breaks are the verdicts on its events.
- Theorem `Trace.events_push`: a push keeps the most recent events.
- Theorem `Trace.trims_exactly`: what is kept, and what is reported on it.
-/

namespace PanelForms
namespace Poll

/-! ## Verdicts -/

/-- The rule that each event of a log breaks, if it breaks one, given the latest start before the
log.  The verdict on an event depends on the events before it, and on none after it. -/
def verdicts (latest : Token) (log : List Event) : List (Option Violation) :=
  log.mapIdx fun i e => violation? (latestIn latest (log.take i)) e

@[simp]
theorem length_verdicts (latest : Token) (log : List Event) :
    (verdicts latest log).length = log.length :=
  List.length_mapIdx

/-- The verdict on an event depends on the last chain started before it. -/
theorem verdicts_cons (latest : Token) (e : Event) (log : List Event) :
    verdicts latest (e :: log) = violation? latest e :: verdicts (e.latestStart latest) log := by
  simp [verdicts, List.mapIdx_cons]

/-- The second part of a log is judged after the latest start of the first part. -/
theorem verdicts_append (latest : Token) (log more : List Event) :
    verdicts latest (log ++ more) =
      verdicts latest log ++ verdicts (latestIn latest log) more := by
  induction log generalizing latest with
  | nil => rfl
  | cons e log ih => simp only [List.cons_append, verdicts_cons, latestIn_cons, ih]

/-- The rules that a log breaks are the verdicts on its events, in order. -/
theorem violations_eq (latest : Token) (log : List Event) :
    violations latest log = (verdicts latest log).reduceOption := by
  induction log generalizing latest with
  | nil => rfl
  | cons e log ih =>
    rw [violations, verdicts_cons, ih]
    cases violation? latest e with
    | none => simp
    | some v => simp

/-! ## Calls -/

namespace Trace

/-- What may be done with a trace. -/
inductive Call where
  | push (e : Event)
  | clear
  deriving DecidableEq

/-- The event that a call pushes. -/
def Call.pushed? : Call → Option Event
  | .push e => some e
  | .clear => none

/-- The trace after a call. -/
def call (t : Trace) : Call → Trace
  | .push e => t.push e
  | .clear => t.clear

/-- The trace after several calls. -/
def after (t : Trace) (calls : List Call) : Trace :=
  calls.foldl call t

/-- The complete log of some calls: every event pushed, from the very first one. -/
def pushed (calls : List Call) : List Event :=
  calls.filterMap Call.pushed?

/-- The events pushed since the latest clear. -/
def sinceClear (calls : List Call) : List Event :=
  pushed (calls.rtakeWhile (· ≠ .clear))

variable {t : Trace} {log : List Event} {calls : List Call}

theorem after_concat (t : Trace) (calls : List Call) (c : Call) :
    t.after (calls ++ [c]) = (t.after calls).call c := by
  simp [after]

theorem pushed_append (calls more : List Call) :
    pushed (calls ++ more) = pushed calls ++ pushed more :=
  List.filterMap_append

/-- One more event was pushed since the last clearing. -/
theorem sinceClear_concat_push (calls : List Call) (e : Event) :
    sinceClear (calls ++ [.push e]) = sinceClear calls ++ [e] := by
  rw [sinceClear, List.rtakeWhile_concat_pos _ _ _ (by simp), pushed_append]
  rfl

/-- Nothing was pushed since a clearing just made. -/
theorem sinceClear_concat_clear (calls : List Call) : sinceClear (calls ++ [.clear]) = [] := by
  rw [sinceClear, List.rtakeWhile_concat_neg _ _ _ (by simp)]
  rfl

/-! ## What is kept -/

@[simp]
theorem capacity_push (t : Trace) (e : Event) : (t.push e).capacity = t.capacity := by
  simp [push]

/-- A full trace makes room by dropping one event, any other trace has room already. -/
theorem events_makeRoom (hfits : t.events.length ≤ t.capacity) (hpos : 0 < t.capacity) :
    t.makeRoom.events = t.events.rtake (t.capacity - 1) := by
  unfold makeRoom List.rtake
  by_cases hfull : t.events.length = t.capacity
  · have hone : t.events.length - (t.capacity - 1) = 1 := by omega
    rw [if_pos hfull, hone]
    cases hevents : t.events with
    | nil => simp [hevents]
    | cons oldest rest => rfl
  · have hnone : t.events.length - (t.capacity - 1) = 0 := by omega
    rw [if_neg hfull, hnone, List.drop_zero]

/-- A push keeps the most recent events, and the one that is pushed. -/
theorem events_push (hfits : t.events.length ≤ t.capacity) (hpos : 0 < t.capacity) (e : Event) :
    (t.push e).events = t.events.rtake (t.capacity - 1) ++ [e] := by
  -- The latest start is noted first, which changes neither the events nor the capacity.
  have hroom := events_makeRoom
    (t := { t with lastStarted := e.latestStart t.lastStarted }) hfits hpos
  rw [push, hroom]

/-- Of the last items, the last ones are the last of all. -/
theorem rtake_rtake {α : Type} (items : List α) (m n : Nat) :
    (items.rtake n).rtake m = items.rtake (min m n) := by
  simp only [List.rtake_eq_reverse_take_reverse, List.reverse_reverse, List.take_take]

/-- A trace keeps the most recent of the events pushed since the latest clear, as many as it has
room for. -/
theorem events_after (capacity : Nat) (calls : List Call) :
    ((withCapacity capacity).after calls).capacity = max capacity 1 ∧
      ((withCapacity capacity).after calls).events =
        (sinceClear calls).rtake (max capacity 1) := by
  induction calls using List.reverseRecOn with
  | nil => exact ⟨rfl, by simp [after, withCapacity, sinceClear, pushed]⟩
  | append_singleton calls c ih =>
    obtain ⟨hcapacity, hevents⟩ := ih
    rw [after_concat]
    cases c with
    | clear => exact ⟨hcapacity, by simp [call, clear, sinceClear_concat_clear]⟩
    | push e =>
      refine ⟨by rw [call, capacity_push, hcapacity], ?_⟩
      have hfits : ((withCapacity capacity).after calls).events.length ≤ max capacity 1 := by
        simp only [hevents, List.rtake, List.length_drop]
        omega
      have hpos : 0 < max capacity 1 := by omega
      obtain ⟨room, hroom⟩ := Nat.exists_eq_add_of_lt hpos
      rw [← hcapacity] at hfits hpos
      rw [call, events_push hfits hpos, sinceClear_concat_push, hcapacity, hevents, hroom,
        rtake_rtake, List.rtake_concat_succ]
      congr 2
      omega

/-! ## What is reported -/

/-- Whatever is pushed and cleared, the trace shows the end of the complete log. -/
theorem Shows.after (h : t.Shows log) (calls : List Call) :
    (t.after calls).Shows (log ++ pushed calls) := by
  induction calls generalizing t log with
  | nil => simpa [Trace.after, pushed] using h
  | cons c calls ih =>
    cases c with
    | push e => simpa [Trace.after, call, pushed, Call.pushed?] using ih (h.push e)
    | clear => exact ih h.clear

/-- The last items are those that were appended. -/
theorem rtake_append_length {α : Type} (items more : List α) :
    (items ++ more).rtake more.length = more := by
  simp [List.rtake]

/-- A trace that shows the end of a log reports the verdicts that the complete log has there. -/
theorem Shows.faults_eq (h : t.Shows log) :
    t.events = log.rtake t.events.length ∧
      t.faults = ((verdicts .none log).rtake t.events.length).reduceOption := by
  obtain ⟨dropped, hlog, hbase⟩ := h.keeps
  constructor
  · rw [hlog, rtake_append_length]
  · have hend : (verdicts .none log).rtake t.events.length = verdicts t.base t.events := by
      rw [hlog, verdicts_append, ← hbase, ← length_verdicts t.base t.events]
      exact rtake_append_length _ _
    rw [hend, faults, violations_eq]

/-- A trace keeps exactly the last of the events pushed since it was cleared, up to its capacity.
They are the end of the complete log, and the lines reported are those that the check of the
complete log has for these events: it reports one line for each event that has a verdict. -/
theorem trims_exactly (capacity : Nat) (calls : List Call) :
    let t := (withCapacity capacity).after calls
    let kept := min (max capacity 1) (sinceClear calls).length
    let log := pushed calls
    t.events = (sinceClear calls).rtake kept ∧ t.events = log.rtake kept ∧
      t.faults.map (·.message) =
        ((verdicts .none log).rtake kept).reduceOption.map (·.message) ∧
      (violations .none log).map (·.message) =
        (verdicts .none log).reduceOption.map (·.message) := by
  intro t kept log
  have hevents : t.events = (sinceClear calls).rtake (max capacity 1) :=
    (events_after capacity calls).2
  have hkept : t.events.length = kept := by
    simp only [hevents, List.rtake, List.length_drop, kept]
    omega
  have hshows : t.Shows log := (shows_withCapacity capacity).after calls
  obtain ⟨hend, hfaults⟩ := hshows.faults_eq
  rw [hkept] at hend hfaults
  refine ⟨?_, hend, by rw [hfaults], by rw [violations_eq]⟩
  rw [hevents, List.rtake, List.rtake]
  congr 1
  simp only [kept]
  omega

/-- A start is judged after the latest one, though that one has been cleared. -/
example : ((withCapacity 1).after
    [.push (.started ⟨2⟩), .clear, .push (.stopped ⟨2⟩), .push (.started ⟨1⟩)]).faults =
      [.startNotIncreasing ⟨1⟩ ⟨2⟩] := by
  decide

end Trace
end Poll
end PanelForms

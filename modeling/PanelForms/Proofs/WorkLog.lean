import Mathlib.Data.List.Basic
import PanelForms.Stop

/-!
# Logs of work that can be stopped

Work on behalf of someone else looks at its stop signal, makes calls and sends messages.  What it
did is kept as a log of these three.  A signal decides nothing but where such a log ends: at the
first look that finds it fired.

Main results:

- Definitions `WorkEvent` and `Recorded`: what work does, and a result with the log of it.
- Definition `StopSignal.cut`: a log that ends at the first look that finds the signal fired.
- Theorems `StopSignal.cut_of_past` and `StopSignal.cut_of_past_none`: a signal leaves a log as it
  is, or cuts it before one of its looks.
- Theorem `WorkEvent.Spaced.cut`: if between two looks there is at most one call and at most one
  message, then so there is after the last look that finds the signal unfired.
-/

namespace PanelForms

/-- What work does: it looks at its signal, makes a call for the `attempt`-th time, or sends a
message. -/
inductive WorkEvent (μ : Type) where
  | look (fired : Bool)
  | call (attempt : Nat)
  | send (message : μ)
  deriving DecidableEq

/-- A result, and the log of what was done for it. -/
structure Recorded (μ ρ : Type) where
  outcome : ρ
  log : List (WorkEvent μ)

variable {μ ρ : Type}

/-- A record of which some events come first. -/
def Recorded.after (front : List (WorkEvent μ)) (r : Recorded μ ρ) : Recorded μ ρ :=
  { r with log := front ++ r.log }

namespace WorkEvent

/-- What was found, if the event is a look. -/
def look? : WorkEvent μ → Option Bool
  | .look fired => some fired
  | _ => none

/-- The number of the attempt, if the event is a call. -/
def call? : WorkEvent μ → Option Nat
  | .call attempt => some attempt
  | _ => none

/-- The message, if the event sends one. -/
def send? : WorkEvent μ → Option μ
  | .send message => some message
  | _ => none

/-- What the looks of a log found. -/
def looks (log : List (WorkEvent μ)) : List Bool :=
  log.filterMap look?

/-- The numbers of the attempts in a log. -/
def calls (log : List (WorkEvent μ)) : List Nat :=
  log.filterMap call?

/-- The messages of a log. -/
def sends (log : List (WorkEvent μ)) : List μ :=
  log.filterMap send?

/-- No look found the signal fired. -/
def Unfired (log : List (WorkEvent μ)) : Prop :=
  .look true ∉ log

variable {a b log : List (WorkEvent μ)}

@[simp]
theorem looks_nil : looks ([] : List (WorkEvent μ)) = [] :=
  rfl

@[simp]
theorem looks_look (fired : Bool) : looks (.look fired :: log) = fired :: looks log :=
  rfl

@[simp]
theorem looks_call (attempt : Nat) : looks (.call attempt :: log) = looks log :=
  rfl

@[simp]
theorem looks_send (message : μ) : looks (.send message :: log) = looks log :=
  rfl

@[simp]
theorem calls_nil : calls ([] : List (WorkEvent μ)) = [] :=
  rfl

@[simp]
theorem calls_look (fired : Bool) : calls (.look fired :: log) = calls log :=
  rfl

@[simp]
theorem calls_call (attempt : Nat) : calls (.call attempt :: log) = attempt :: calls log :=
  rfl

@[simp]
theorem calls_send (message : μ) : calls (.send message :: log) = calls log :=
  rfl

@[simp]
theorem calls_append : calls (a ++ b) = calls a ++ calls b :=
  List.filterMap_append

@[simp]
theorem sends_nil : sends ([] : List (WorkEvent μ)) = [] :=
  rfl

@[simp]
theorem sends_look (fired : Bool) : sends (.look fired :: log) = sends log :=
  rfl

@[simp]
theorem sends_call (attempt : Nat) : sends (.call attempt :: log) = sends log :=
  rfl

@[simp]
theorem sends_send (message : μ) : sends (.send message :: log) = message :: sends log :=
  rfl

@[simp]
theorem sends_append : sends (a ++ b) = sends a ++ sends b :=
  List.filterMap_append

end WorkEvent

open WorkEvent

/-! ## Cutting a log -/

namespace StopSignal

/-- The signal after the looks of a log; none if one of them finds it fired. -/
def past : StopSignal → List (WorkEvent μ) → Option StopSignal
  | signal, [] => some signal
  | signal, .look _ :: rest =>
    match signal.observe with
    | (true, _) => none
    | (false, signal) => signal.past rest
  | signal, .call _ :: rest => signal.past rest
  | signal, .send _ :: rest => signal.past rest

/-- The log up to the first look that finds the signal fired. -/
def cut : StopSignal → List (WorkEvent μ) → List (WorkEvent μ)
  | _, [] => []
  | signal, .look _ :: rest =>
    match signal.observe with
    | (true, _) => [.look true]
    | (false, signal) => .look false :: signal.cut rest
  | signal, .call attempt :: rest => .call attempt :: signal.cut rest
  | signal, .send message :: rest => .send message :: signal.cut rest

variable {signal next : StopSignal} {a b log : List (WorkEvent μ)}

/-- A signal outlasts a log exactly if it outlasts both parts. -/
theorem past_append : signal.past (a ++ b) = (signal.past a).bind fun next => next.past b := by
  fun_induction past signal a with
  | case1 signal => rfl
  | case2 signal fired rest t hlook => simp [past, hlook]
  | case3 signal fired rest t hlook ih => simpa [past, hlook] using ih
  | case4 signal attempt rest ih => exact ih
  | case5 signal message rest ih => exact ih

/-- A signal that outlasts the first part cuts the second. -/
theorem cut_append_of_past (h : signal.past a = some next) :
    signal.cut (a ++ b) = signal.cut a ++ next.cut b := by
  fun_induction past signal a with
  | case1 signal =>
    cases h
    rfl
  | case2 signal fired rest t hlook => cases h
  | case3 signal fired rest t hlook ih => simp [cut, hlook, ih h]
  | case4 signal attempt rest ih => simp [cut, ih h]
  | case5 signal message rest ih => simp [cut, ih h]

/-- A signal that fires in the first part cuts off the second. -/
theorem cut_append_of_past_none (h : signal.past a = none) :
    signal.cut (a ++ b) = signal.cut a := by
  fun_induction past signal a with
  | case1 signal => cases h
  | case2 signal fired rest t hlook => simp [cut, hlook]
  | case3 signal fired rest t hlook ih => simp [cut, hlook, ih h]
  | case4 signal attempt rest ih => simp [cut, ih h]
  | case5 signal message rest ih => simp [cut, ih h]

/-- A log through which the signal does not fire is left as it is. -/
theorem cut_of_past (hlog : Unfired log) (h : signal.past log = some next) :
    signal.cut log = log := by
  fun_induction past signal log with
  | case1 signal => rfl
  | case2 signal fired rest t hlook => cases h
  | case3 signal fired rest t hlook ih =>
    obtain ⟨hfired, hrest⟩ : fired = false ∧ Unfired rest := by simpa [Unfired] using hlog
    simp [cut, hlook, hfired, ih hrest h]
  | case4 signal attempt rest ih =>
    have hrest : Unfired rest := by simpa [Unfired] using hlog
    simp [cut, ih hrest h]
  | case5 signal message rest ih =>
    have hrest : Unfired rest := by simpa [Unfired] using hlog
    simp [cut, ih hrest h]

/-- A log in which the signal fires is cut before one of its looks. -/
theorem cut_of_past_none (hlog : Unfired log) (h : signal.past log = none) :
    ∃ front rest, log = front ++ .look false :: rest ∧ signal.cut log = front ++ [.look true] := by
  fun_induction past signal log with
  | case1 signal => cases h
  | case2 signal fired rest t hlook =>
    obtain ⟨hfired, -⟩ : fired = false ∧ Unfired rest := by simpa [Unfired] using hlog
    exact ⟨[], rest, by simp [hfired], by simp [cut, hlook]⟩
  | case3 signal fired rest t hlook ih =>
    obtain ⟨hfired, hrest⟩ : fired = false ∧ Unfired rest := by simpa [Unfired] using hlog
    obtain ⟨front, tail, hsplit, hcut⟩ := ih hrest h
    exact ⟨.look false :: front, tail, by simp [hfired, hsplit], by simp [cut, hlook, hcut]⟩
  | case4 signal attempt rest ih =>
    have hrest : Unfired rest := by simpa [Unfired] using hlog
    obtain ⟨front, tail, hsplit, hcut⟩ := ih hrest h
    exact ⟨.call attempt :: front, tail, by simp [hsplit], by simp [cut, hcut]⟩
  | case5 signal message rest ih =>
    have hrest : Unfired rest := by simpa [Unfired] using hlog
    obtain ⟨front, tail, hsplit, hcut⟩ := ih hrest h
    exact ⟨.send message :: front, tail, by simp [hsplit], by simp [cut, hcut]⟩

/-- Cutting a log takes away messages at its end only. -/
theorem sends_cut_prefix (signal : StopSignal) (hlog : Unfired log) :
    sends (signal.cut log) <+: sends log := by
  cases hpast : signal.past log with
  | none =>
    obtain ⟨front, rest, hsplit, hcut⟩ := cut_of_past_none hlog hpast
    rw [hcut, hsplit]
    simp
  | some next => simp [cut_of_past hlog hpast]

/-- A cut log shows whether the signal fired. -/
theorem mem_cut_iff (hlog : Unfired log) :
    .look true ∈ signal.cut log ↔ signal.past log = none := by
  cases hpast : signal.past log with
  | none =>
    obtain ⟨front, rest, -, hcut⟩ := cut_of_past_none hlog hpast
    simp [hcut]
  | some next =>
    rw [cut_of_past hlog hpast]
    exact iff_of_false hlog (by simp)

/-- Nothing is done after a look that finds the signal fired. -/
theorem nil_of_cut_eq (hlog : Unfired log) (h : signal.cut log = a ++ .look true :: b) :
    b = [] := by
  cases hpast : signal.past log with
  | none =>
    obtain ⟨front, rest, hsplit, hcut⟩ := cut_of_past_none hlog hpast
    have hfront : .look true ∉ front := by
      have hwhole : .look true ∉ front ++ .look false :: rest := hsplit ▸ hlog
      exact fun hmem => hwhole (List.mem_append_left _ hmem)
    rw [hcut] at h
    exact ((List.append_cons_inj_of_notMem hfront List.not_mem_nil).1 h).2.2.symm
  | some next =>
    rw [cut_of_past hlog hpast] at h
    exact absurd (h ▸ List.mem_append_right a List.mem_cons_self) hlog

/-- A signal that fires in a log fires after as many looks as the cut log finds it unfired. -/
theorem exists_after_of_past_none (h : signal.past log = none) :
    ∃ m, signal = .after m ∧ looks (signal.cut log) = List.replicate m false ++ [true] := by
  fun_induction past signal log with
  | case1 signal => cases h
  | case2 signal fired rest t hlook =>
    refine ⟨0, ?_, by simp [cut, hlook]⟩
    obtain ⟨_ | _ | n⟩ := signal
    · simp [observe] at hlook
    · rfl
    · simp [observe] at hlook
  | case3 signal fired rest t hlook ih =>
    obtain ⟨m, rfl, hlooks⟩ := ih h
    refine ⟨m + 1, ?_, by simp [cut, hlook, hlooks, List.replicate_succ]⟩
    obtain ⟨_ | _ | n⟩ := signal
    · simp [observe, after] at hlook
    · simp [observe] at hlook
    · simpa [observe, after] using hlook
  | case4 signal attempt rest ih => exact ih h
  | case5 signal message rest ih => exact ih h

end StopSignal

/-! ## Between two looks -/

namespace WorkEvent

/-- Between two looks there is at most one call and at most one message. -/
def Spaced (log : List (WorkEvent μ)) : Prop :=
  ∀ before stretch after, log = before ++ (stretch ++ after) → .look false ∉ stretch →
    (calls stretch).length ≤ 1 ∧ (sends stretch).length ≤ 1

variable {a b log : List (WorkEvent μ)}

/-- A log with one call and one message at most is spaced. -/
theorem spaced_of_length_le (hcalls : (calls log).length ≤ 1) (hsends : (sends log).length ≤ 1) :
    Spaced log := by
  rintro before stretch after rfl -
  simp only [calls_append, sends_append, List.length_append] at hcalls hsends
  omega

/-- A look separates what comes before it from what comes after it. -/
theorem Spaced.append_look (ha : Spaced a) (hb : Spaced b) : Spaced (a ++ .look false :: b) := by
  intro before stretch after hsplit hstretch
  rcases List.append_eq_append_iff.1 hsplit with ⟨as, rfl, hrest⟩ | ⟨bs, rfl, hrest⟩
  · rcases as with _ | ⟨event, as⟩
    · -- The stretch begins at the look, so it is empty.
      rcases stretch with _ | ⟨event, stretch⟩
      · simp
      · cases hrest
        exact absurd List.mem_cons_self hstretch
    · cases hrest
      exact hb as stretch after rfl hstretch
  · rcases List.append_eq_append_iff.1 hrest with ⟨cs, rfl, -⟩ | ⟨cs, rfl, hlook⟩
    · exact ha before stretch cs rfl hstretch
    · rcases cs with _ | ⟨event, cs⟩
      · rw [List.append_nil] at hstretch ⊢
        exact ha before bs [] (by simp) hstretch
      · cases hlook
        exact absurd (List.mem_append_right bs List.mem_cons_self) hstretch

/-- After the last look that finds the signal unfired, at most one call is made and at most one
message is sent, also if the log is cut short. -/
theorem Spaced.cut {signal : StopSignal} (hlog : Spaced log) (hunfired : Unfired log)
    (hsplit : signal.cut log = a ++ b) (hb : .look false ∉ b) :
    (calls b).length ≤ 1 ∧ (sends b).length ≤ 1 := by
  cases hpast : signal.past log with
  | some next =>
    rw [StopSignal.cut_of_past hunfired hpast] at hsplit
    exact hlog a b [] (by simpa using hsplit) hb
  | none =>
    obtain ⟨front, rest, rfl, hcut⟩ := StopSignal.cut_of_past_none hunfired hpast
    rw [hcut] at hsplit
    rcases b.eq_nil_or_concat with rfl | ⟨b, event, rfl⟩
    · simp
    · rw [List.concat_eq_append, ← List.append_assoc] at hsplit
      obtain ⟨rfl, hlast⟩ := List.append_inj' hsplit rfl
      cases hlast
      have hstretch : .look false ∉ b := by simpa using hb
      simpa using hlog a b (.look false :: rest) (by simp) hstretch

end WorkEvent
end PanelForms

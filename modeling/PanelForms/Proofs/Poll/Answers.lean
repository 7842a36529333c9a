import PanelForms.Poll.Outcome

/-!
# What the answers of a poll say

The `state` member of a response decides alone what the response says.  The states are told here
one by one, so that chains of polls and computed options are about what the backend has written and
not about the function that reads it.

Main results:

- Definition `Poll.InState`: the state that a response names.
- Inductive predicates `Poll.Reports` and `Poll.Says`: the fault that a response reports, and all
  that a response may say.
- Theorem `Poll.classify_eq_iff`: a response is read as exactly what it says.
-/

namespace PanelForms
namespace Poll

variable {response : Json} {state : String}

/-! ## States -/

/-- The response names this state. -/
def InState (response : Json) (state : String) : Prop :=
  response.member? "state" = some (.string state)

instance : Decidable (InState response state) :=
  inferInstanceAs (Decidable (_ = _))

/-- The states with a meaning of their own. -/
def knownStates : List String :=
  ["pending", "running", "completed", "error", "canceled", "missing"]

/-- A response that names a state has one. -/
theorem InState.member?_ne_none (h : InState response state) : response.member? "state" ≠ none := by
  rw [h]
  nofun

/-- A response names one state at most. -/
theorem InState.not_of_ne {other : String} (h : InState response state) (hne : other ≠ state) :
    ¬ InState response other := by
  intro hother
  have heq : other = state := by simpa using hother.symm.trans h
  exact hne heq

/-- The text of a member is read exactly if the member is a text. -/
theorem bind_string?_eq_some_iff {name text : String} :
    (response.member? name).bind Json.string? = some text ↔
      response.member? name = some (.string text) := by
  rw [Option.bind_eq_some_iff]
  constructor
  · rintro ⟨v, hv, htext⟩
    cases v <;> cases htext
    exact hv
  · intro hv
    exact ⟨_, hv, rfl⟩

/-- No text is read exactly if the member is no text. -/
theorem bind_string?_eq_none_iff {name : String} :
    (response.member? name).bind Json.string? = none ↔
      ∀ text, response.member? name ≠ some (.string text) := by
  simp only [Option.eq_none_iff_forall_ne_some, ne_eq, bind_string?_eq_some_iff]

/-- The state that a response names is the text that is read for it. -/
theorem InState.text_eq (h : InState response state) :
    (response.member? "state").bind Json.string? = some state :=
  bind_string?_eq_some_iff.mpr h

/-! ## Faults and answers -/

/-- The fault that a response reports: its state is no text, it tells that the run has failed, or
it has a state without a meaning. -/
inductive Reports (response : Json) : Fault → Prop where
  | malformed (hstate : ∀ state, ¬ InState response state) :
      Reports response (.malformedResponse response)
  | explained {text : String} (hstate : InState response "error")
      (herror : response.member? "error" = some (.string text)) :
      Reports response (.backendError text)
  | unexplained (hstate : InState response "error")
      (herror : ∀ text, response.member? "error" ≠ some (.string text)) :
      Reports response (.backendError "unknown error")
  | canceled (hstate : InState response "canceled") : Reports response .backendCanceled
  | missing (hstate : InState response "missing") : Reports response .simulationMissing
  | unexpected {state : String} (hstate : InState response state) (hother : state ∉ knownStates) :
      Reports response (.unexpectedState state)

/-- What a response says of a run: it waits, it goes on or it is completed, with the response as its
data, or it has ended badly. -/
inductive Says (response : Json) : Except Fault Outcome → Prop where
  | pending (hstate : InState response "pending") : Says response (.ok .pending)
  | running (hstate : InState response "running") : Says response (.ok (.running response))
  | completed (hstate : InState response "completed") : Says response (.ok (.completed response))
  | fault {fault : Fault} (h : Reports response fault) : Says response (.error fault)

/-- No response reports that the polls were cancelled. -/
theorem Reports.ne_cancelled {fault : Fault} (h : Reports response fault) : fault ≠ .cancelled := by
  cases h <;> nofun

/-- Every response says what it is read as: one case for each known state, and the rest. -/
theorem says_classify (response : Json) : Says response (classify response) := by
  unfold classify
  split
  · next hstate => exact .fault (.malformed (bind_string?_eq_none_iff.mp hstate))
  · next hstate => exact .pending (bind_string?_eq_some_iff.mp hstate)
  · next hstate => exact .running (bind_string?_eq_some_iff.mp hstate)
  · next hstate => exact .completed (bind_string?_eq_some_iff.mp hstate)
  · next hstate =>
    have hin : InState response "error" := bind_string?_eq_some_iff.mp hstate
    cases herror : (response.member? "error").bind Json.string? with
    | none => exact .fault (.unexplained hin (bind_string?_eq_none_iff.mp herror))
    | some text => exact .fault (.explained hin (bind_string?_eq_some_iff.mp herror))
  · next hstate => exact .fault (.canceled (bind_string?_eq_some_iff.mp hstate))
  · next hstate => exact .fault (.missing (bind_string?_eq_some_iff.mp hstate))
  · next hpending hrunning hcompleted hfailed hcanceled hmissing hstate =>
    refine .fault (.unexpected (bind_string?_eq_some_iff.mp hstate) ?_)
    simp only [knownStates, List.mem_cons, List.not_mem_nil, or_false, not_or]
    exact ⟨hpending, hrunning, hcompleted, hfailed, hcanceled, hmissing⟩

/-- What a response reports is read as that fault. -/
theorem Reports.classify_eq {fault : Fault} (h : Reports response fault) :
    classify response = .error fault := by
  cases h with
  | malformed hstate => simp [classify, bind_string?_eq_none_iff.mpr hstate]
  | explained hstate herror =>
    simp [classify, hstate.text_eq, bind_string?_eq_some_iff.mpr herror]
  | unexplained hstate herror =>
    simp [classify, hstate.text_eq, bind_string?_eq_none_iff.mpr herror]
  | canceled hstate => simp [classify, hstate.text_eq]
  | missing hstate => simp [classify, hstate.text_eq]
  | unexpected hstate hother =>
    simp only [knownStates, List.mem_cons, List.not_mem_nil, or_false, not_or] at hother
    simp [classify, hstate.text_eq, hother]

/-- A response is read as exactly what it says. -/
theorem classify_eq_iff {answer : Except Fault Outcome} :
    classify response = answer ↔ Says response answer := by
  constructor
  · rintro rfl
    exact says_classify response
  · rintro (hstate | hstate | hstate | hreports)
    · simp [classify, hstate.text_eq]
    · simp [classify, hstate.text_eq]
    · simp [classify, hstate.text_eq]
    · exact hreports.classify_eq

/-- A response is read as waiting exactly if it names that state. -/
theorem classify_eq_pending_iff : classify response = .ok .pending ↔ InState response "pending" := by
  rw [classify_eq_iff]
  constructor
  · intro h
    cases h with
    | pending hstate => exact hstate
  · exact .pending

/-- A response is read as one of a run that goes on exactly if it names that state, and it is
itself the data. -/
theorem classify_eq_running_iff {data : Json} :
    classify response = .ok (.running data) ↔ data = response ∧ InState response "running" := by
  rw [classify_eq_iff]
  constructor
  · intro h
    cases h with
    | running hstate => exact ⟨rfl, hstate⟩
  · rintro ⟨rfl, hstate⟩
    exact .running hstate

/-- A response is read as one of a completed run exactly if it names that state, and it is itself
the data. -/
theorem classify_eq_completed_iff {data : Json} :
    classify response = .ok (.completed data) ↔ data = response ∧ InState response "completed" := by
  rw [classify_eq_iff]
  constructor
  · intro h
    cases h with
    | completed hstate => exact ⟨rfl, hstate⟩
  · rintro ⟨rfl, hstate⟩
    exact .completed hstate

/-- A response is read as a fault exactly if it reports that fault. -/
theorem classify_eq_error_iff {fault : Fault} :
    classify response = .error fault ↔ Reports response fault := by
  rw [classify_eq_iff]
  constructor
  · intro h
    cases h with
    | fault hreports => exact hreports
  · exact .fault

end Poll
end PanelForms

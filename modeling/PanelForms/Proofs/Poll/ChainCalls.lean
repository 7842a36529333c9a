import PanelForms.Proofs.Poll.ChainMessages

/-!
# The calls of a chain

A chain may be called in any order: a response may come without a request, and a request may be
begun again while one is under way.  Whatever the order, the chain ends once.  The first call that
ends it decides its phase for good, every later call is refused, and at most one answer tells how
the run has ended.

Main definitions:

- `Poll.ChainCall`, `Poll.ChainAnswer`: what a chain is asked, and what it answers.
- `ChainCall.leads`: the phase that a call leads to while a chain goes on.
- `Poll.ChainTurn`, `Chain.turns`: the calls of a run with the chain before and after each.

Main results:

- Theorems `Chain.call_of_ended` and `Chain.phase_call`: what one call does.
- Theorem `Chain.phase_after`: the calls alone tell the phase.
- Theorem `Chain.requests_after`: which calls are counted as requests.
- Theorem `Chain.ends_once`: what holds after any calls of a new chain.
-/

namespace PanelForms
namespace Poll

/-! ## Calls and answers -/

/-- A call of a chain. -/
inductive ChainCall where
  | beginRequest
  | onResponse (response : Json)
  | fail
  | supersede

/-- What a chain answers: whether a request may be made, what follows a response, or nothing. -/
inductive ChainAnswer where
  | begun (allowed : Bool)
  | taken (result : Except Fault Step)
  | silent

/-- The answer tells how the run has ended: with its last data, or with a fault other than that
the chain was cancelled. -/
def ChainAnswer.decides : ChainAnswer → Bool
  | .taken (.ok (.finished _)) => true
  | .taken (.error fault) => decide (fault ≠ .cancelled)
  | _ => false

namespace ChainCall

/-- The phase that a call leads to, unless the chain has ended before. -/
def leads : ChainCall → Phase
  | .beginRequest => .requesting
  | .onResponse response =>
    match classify response with
    | .ok .pending => .pending
    | .ok (.running _) => .running
    | .ok (.completed _) => .completed
    | .error _ => .failed
  | .fail => .failed
  | .supersede => .superseded

/-- Whether a call ends a chain that has not ended before. -/
def ends (a : ChainCall) : Bool :=
  a.leads.isTerminal

/-- Whether a call hands a response to the chain. -/
def isResponse : ChainCall → Bool
  | .onResponse _ => true
  | _ => false

/-- What a chain that has ended answers. -/
def refusal : ChainCall → ChainAnswer
  | .beginRequest => .begun false
  | .onResponse _ => .taken (.error .cancelled)
  | .fail | .supersede => .silent

/-- A refusal does not tell how the run has ended. -/
theorem decides_refusal (a : ChainCall) : a.refusal.decides = false := by
  cases a <;> rfl

end ChainCall

/-- A call with its answer, and the chain before and after it. -/
structure ChainTurn where
  before : Chain
  call : ChainCall
  answer : ChainAnswer
  after : Chain

/-- Whether the call has made a chain enter a request from another phase in which it goes on. -/
def ChainTurn.entersRequest (turn : ChainTurn) : Bool :=
  match turn.call with
  | .beginRequest =>
    !turn.before.phase.isTerminal && turn.before.phase ≠ .requesting &&
      turn.after.phase = .requesting
  | _ => false

namespace Chain

/-- The answer to a call, and the chain after it. -/
def call (c : Chain) : ChainCall → ChainAnswer × Chain
  | .beginRequest => (.begun c.beginRequest.1, c.beginRequest.2)
  | .onResponse response => (.taken (c.onResponse response).1, (c.onResponse response).2)
  | .fail => (.silent, c.fail)
  | .supersede => (.silent, c.supersede)

/-- The turn of a call. -/
def turn (c : Chain) (a : ChainCall) : ChainTurn :=
  ⟨c, a, (c.call a).1, (c.call a).2⟩

/-- The chain after some calls. -/
def after (c : Chain) : List ChainCall → Chain
  | [] => c
  | a :: calls => after (c.call a).2 calls

/-- The turns of some calls. -/
def turns (c : Chain) : List ChainCall → List ChainTurn
  | [] => []
  | a :: calls => c.turn a :: turns (c.call a).2 calls

theorem after_append (c : Chain) (calls later : List ChainCall) :
    c.after (calls ++ later) = (c.after calls).after later := by
  induction calls generalizing c with
  | nil => rfl
  | cons a calls ih => exact ih (c.call a).2

/-! ## One call -/

section call

variable {c : Chain}

/-- A chain is ready for a request, waits for a response, or has ended. -/
theorem ready_or_requesting_or_ended (c : Chain) :
    c.Ready ∨ c.phase = .requesting ∨ c.phase.isTerminal = true := by
  unfold Ready
  cases c.phase <;> decide

/-- A chain that waits for a response may begin its request over, which changes nothing. -/
theorem beginRequest_of_requesting (h : c.phase = .requesting) : c.beginRequest = (true, c) := by
  simp [beginRequest, h]

/-- A chain that has ended begins no request. -/
theorem beginRequest_of_ended (h : c.phase.isTerminal = true) : c.beginRequest = (false, c) := by
  unfold beginRequest
  split <;> simp_all [Phase.isTerminal]

/-- A chain that is ready has not ended. -/
theorem Ready.goesOn (h : c.Ready) : c.phase.isTerminal = false := by
  rcases h with h | h | h <;> rw [h] <;> rfl

/-- A chain that has not ended takes a response for what it says. -/
theorem onResponse_of_going (h : c.phase.isTerminal = false) (response : Json) :
    c.onResponse response =
      match classify response with
      | .ok .pending => (.ok .repoll, { c with phase := .pending })
      | .ok (.running data) => (.ok (.progress data), { c with phase := .running })
      | .ok (.completed data) => (.ok (.finished data), { c with phase := .completed })
      | .error fault => (.error fault, { c with phase := .failed }) := by
  rw [onResponse, h]
  rfl

/-- A request may be begun exactly if the chain has not ended. -/
theorem beginRequest_fst_iff (c : Chain) :
    c.beginRequest.1 = true ↔ c.phase.isTerminal = false := by
  rcases c.ready_or_requesting_or_ended with h | h | h
  · simp [h.beginRequest, h.goesOn]
  · simp [beginRequest_of_requesting h, h, Phase.isTerminal]
  · simp [beginRequest_of_ended h, h]

@[simp]
theorem token_call (c : Chain) (a : ChainCall) : (c.call a).2.token = c.token := by
  cases a with
  | beginRequest => exact c.token_beginRequest
  | onResponse response => exact c.token_onResponse response
  | fail | supersede => exact c.token_endAs _

/-- A chain that has ended refuses every call and stays as it is. -/
theorem call_of_ended (h : c.phase.isTerminal = true) (a : ChainCall) :
    c.call a = (a.refusal, c) := by
  cases a with
  | beginRequest => simp [call, beginRequest_of_ended h, ChainCall.refusal]
  | onResponse response => simp [call, onResponse, h, ChainCall.refusal]
  | fail => simp [call, fail, endAs, h, ChainCall.refusal]
  | supersede => simp [call, supersede, endAs, h, ChainCall.refusal]

/-- A chain that has not ended goes where the call leads. -/
theorem phase_call (h : c.phase.isTerminal = false) (a : ChainCall) :
    (c.call a).2.phase = a.leads := by
  cases a with
  | beginRequest =>
    rcases c.ready_or_requesting_or_ended with hc | hc | hc
    · simp [call, hc.beginRequest, ChainCall.leads]
    · simp [call, beginRequest_of_requesting hc, ChainCall.leads, hc]
    · rw [h] at hc
      cases hc
  | onResponse response =>
    simp only [call, onResponse_of_going h, ChainCall.leads]
    rcases classify response with fault | (_ | data | data) <;> rfl
  | fail => simp [call, fail, endAs, h, ChainCall.leads]
  | supersede => simp [call, supersede, endAs, h, ChainCall.leads]

/-- An answer tells how the run has ended exactly if it is the answer to a response that ends the
chain. -/
theorem decides_call (c : Chain) (a : ChainCall) :
    (c.call a).1.decides = true ↔
      a.isResponse = true ∧ c.phase.isTerminal = false ∧ a.ends = true := by
  cases h : c.phase.isTerminal with
  | true => simp [call_of_ended h, ChainCall.decides_refusal]
  | false =>
    cases a with
    | beginRequest | fail | supersede =>
      simp [call, ChainAnswer.decides, ChainCall.isResponse]
    | onResponse response =>
      simp only [call, onResponse_of_going h]
      rcases hstate : classify response with fault | (_ | data | data)
      · have hfault : fault ≠ .cancelled := (classify_eq_error_iff.mp hstate).ne_cancelled
        simp [ChainAnswer.decides, ChainCall.isResponse, ChainCall.ends, ChainCall.leads, hstate,
          Phase.isTerminal, hfault]
      all_goals
        simp [ChainAnswer.decides, ChainCall.isResponse, ChainCall.ends, ChainCall.leads, hstate,
          Phase.isTerminal]

/-- A response is not counted as a request. -/
theorem requests_onResponse (c : Chain) (response : Json) :
    (c.onResponse response).2.requests = c.requests := by
  unfold onResponse
  split
  · rfl
  · split <;> rfl

theorem requests_endAs (c : Chain) (phase : Phase) : (c.endAs phase).requests = c.requests := by
  unfold endAs
  split <;> rfl

/-- Only a call that makes the chain enter a request is counted. -/
theorem requests_call (c : Chain) (a : ChainCall) :
    (c.call a).2.requests = c.requests + if (c.turn a).entersRequest then 1 else 0 := by
  cases a with
  | beginRequest =>
    rcases c.ready_or_requesting_or_ended with h | h | h
    · have hother : c.phase ≠ .requesting := by
        rcases h with h | h | h <;> rw [h] <;> decide
      simp [turn, call, h.beginRequest, ChainTurn.entersRequest, h.goesOn, hother]
    · simp [turn, call, beginRequest_of_requesting h, ChainTurn.entersRequest, h]
    · simp [turn, call, beginRequest_of_ended h, ChainTurn.entersRequest, h]
  | onResponse response => simp [turn, call, ChainTurn.entersRequest, requests_onResponse]
  | fail => simp [turn, call, fail, ChainTurn.entersRequest, requests_endAs]
  | supersede => simp [turn, call, supersede, ChainTurn.entersRequest, requests_endAs]

/-- Beginning a request twice is beginning it once. -/
theorem call_beginRequest_twice (c : Chain) :
    ((c.call .beginRequest).2.call .beginRequest).2 = (c.call .beginRequest).2 := by
  cases h : c.phase.isTerminal with
  | true => rw [call_of_ended h, call_of_ended h]
  | false =>
    have hrequesting := phase_call h .beginRequest
    change (c.call .beginRequest).2.beginRequest.2 = _
    rw [beginRequest_of_requesting hrequesting]

end call

/-! ## Any calls -/

section calls

variable {c : Chain}

@[simp]
theorem token_after (c : Chain) (calls : List ChainCall) : (c.after calls).token = c.token := by
  induction calls generalizing c with
  | nil => rfl
  | cons a calls ih => exact (ih (c.call a).2).trans (c.token_call a)

/-- A chain that has ended stays as it is. -/
theorem after_of_ended (h : c.phase.isTerminal = true) (calls : List ChainCall) :
    c.after calls = c := by
  induction calls with
  | nil => rfl
  | cons a calls ih => rwa [after, call_of_ended h]

/-- A chain that has ended refuses all calls. -/
theorem answer_of_ended (h : c.phase.isTerminal = true) (calls : List ChainCall) :
    ∀ turn ∈ c.turns calls, turn.answer = turn.call.refusal := by
  induction calls with
  | nil => exact List.forall_mem_nil _
  | cons a calls ih =>
    rw [turns, turn, call_of_ended h]
    exact List.forall_mem_cons.2 ⟨rfl, ih⟩

/-- The phase is the one that the first call to end the chain leads to, and as long as there is no
such call the one that the last call leads to. -/
theorem phase_after (h : c.phase.isTerminal = false) (calls : List ChainCall) :
    (c.after calls).phase =
      ((calls.find? (·.ends)).or calls.getLast?).elim c.phase ChainCall.leads := by
  induction calls generalizing c with
  | nil => rfl
  | cons a calls ih =>
    have hphase := phase_call h a
    rw [after, List.find?_cons]
    cases hends : a.ends with
    | true =>
      have hended : (c.call a).2.phase.isTerminal = true := hphase ▸ hends
      rw [after_of_ended hended, hphase]
      rfl
    | false =>
      have hgoes : (c.call a).2.phase.isTerminal = false := hphase ▸ hends
      rw [ih hgoes, hphase, List.getLast?_cons]
      cases calls.find? (·.ends) with
      | some first => rfl
      | none => cases calls.getLast? <;> rfl

/-- A chain has ended exactly if one of the calls ends it. -/
theorem ended_after_iff (h : c.phase.isTerminal = false) (calls : List ChainCall) :
    (c.after calls).phase.isTerminal = true ↔ ∃ a ∈ calls, a.ends = true := by
  rw [phase_after h, ← List.find?_isSome]
  cases hfirst : calls.find? (·.ends) with
  | some first =>
    have hends : first.ends = true := List.find?_some hfirst
    simpa [ChainCall.ends] using hends
  | none =>
    rw [Option.none_or]
    cases hlast : calls.getLast? with
    | none => simp [h]
    | some last =>
      have hgoes := List.find?_eq_none.1 hfirst last (List.mem_of_getLast? hlast)
      simpa [ChainCall.ends] using hgoes

/-- At most one answer tells how the run has ended. -/
theorem countP_decides_le (c : Chain) (calls : List ChainCall) :
    (c.turns calls).countP (·.answer.decides) ≤ 1 := by
  induction calls generalizing c with
  | nil => exact Nat.zero_le 1
  | cons a calls ih =>
    rw [turns, List.countP_cons]
    cases hdecides : (c.turn a).answer.decides with
    | false => simpa using ih (c.call a).2
    | true =>
      -- The answer ends the chain, and all later ones refuse.
      obtain ⟨-, hgoes, hends⟩ := (c.decides_call a).1 hdecides
      have hended : (c.call a).2.phase.isTerminal = true := phase_call hgoes a ▸ hends
      have hnone : ((c.call a).2.turns calls).countP (·.answer.decides) = 0 := by
        refine List.countP_eq_zero.2 fun later hlater => ?_
        rw [answer_of_ended hended calls later hlater, ChainCall.decides_refusal]
        exact Bool.false_ne_true
      simp [hnone]

/-- The requests counted are the calls that have made the chain enter a request. -/
theorem requests_after (c : Chain) (calls : List ChainCall) :
    (c.after calls).requests = c.requests + (c.turns calls).countP (·.entersRequest) := by
  induction calls generalizing c with
  | nil => rfl
  | cons a calls ih =>
    rw [after, ih, requests_call, turns, List.countP_cons]
    omega

end calls

/-! ## A new chain -/

/-- How a chain stands after some calls, whatever is called later. -/
structure EndsOnce (token : Token) (calls : List ChainCall) (c : Chain) : Prop where
  token_eq : c.token = token
  /-- The calls tell the phase. -/
  phase_eq : c.phase =
    ((calls.find? (·.ends)).or calls.getLast?).elim .idle ChainCall.leads
  /-- The chain has ended exactly if one of the calls ends a chain. -/
  ended_iff : c.phase.isTerminal = true ↔ ∃ a ∈ calls, a.ends = true
  /-- A request may be begun exactly if the chain has not ended. -/
  begins_iff : c.beginRequest.1 = true ↔ c.phase.isTerminal = false
  /-- A chain that has ended never changes again. -/
  absorbs : c.phase.isTerminal = true → ∀ later, c.after later = c
  /-- A chain that has ended refuses all later calls. -/
  refuses : c.phase.isTerminal = true → ∀ later, ∀ turn ∈ c.turns later,
    turn.answer = turn.call.refusal
  /-- The answer that tells how the run has ended is the one to a response that ends the chain. -/
  decides_iff : ∀ a, (c.call a).1.decides = true ↔
    a.isResponse = true ∧ c.phase.isTerminal = false ∧ a.ends = true
  /-- There has been one such answer at most. -/
  decided_once : ((new token).turns calls).countP (·.answer.decides) ≤ 1
  /-- The requests counted are the calls that have made the chain enter a request from another
  phase in which it went on. -/
  counted : c.requests = ((new token).turns calls).countP (·.entersRequest)
  /-- To begin a request that has just been begun makes no difference. -/
  repeated : ∀ before later, calls = before ++ .beginRequest :: .beginRequest :: later →
    c = (new token).after (before ++ .beginRequest :: later)

/-- Whatever is called in whatever order, a chain ends once, and counts every request once. -/
theorem ends_once (token : Token) (calls : List ChainCall) :
    EndsOnce token calls ((new token).after calls) where
  token_eq := (new token).token_after calls
  phase_eq := phase_after rfl calls
  ended_iff := ended_after_iff rfl calls
  begins_iff := beginRequest_fst_iff _
  absorbs := after_of_ended
  refuses := answer_of_ended
  decides_iff := decides_call _
  decided_once := countP_decides_le (new token) calls
  counted := by
    rw [requests_after]
    exact Nat.zero_add _
  repeated before later hcalls := by
    rw [hcalls, after_append, after_append]
    exact congrArg (·.after later) (((new token).after before).call_beginRequest_twice)

/-- A request that is begun twice counts once, and nothing counts after a failure. -/
example :
    ((new ⟨1⟩).after [.beginRequest, .beginRequest, .fail, .beginRequest, .supersede]) =
      ⟨⟨1⟩, .failed, 1⟩ := by
  rfl

end Chain
end Poll
end PanelForms

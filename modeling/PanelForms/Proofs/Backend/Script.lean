import PanelForms.Proofs.Backend.AttemptLog
import PanelForms.Proofs.Backend.Attempts

/-!
# Backends as scripts of replies

What a backend answers on a route depends on the replies that it still has for this route, and on
nothing else.  So its calls can be followed on that list alone, which gets shorter with every call
until one reply is left.

Main results:

- Definitions `Script.next` and `Script.call`: the next reply of a script, and a call of a script.
- Theorem `Script.call_replies`: calls of a backend go as its script says.
- Theorem `RetryPolicy.run_map`: attempts of a call that goes as another one go as the attempts of
  that one.
- Theorem `Script.length_stateAfter_le`: every call uses a reply up until one is left.
- Theorem `Call.Sends.requests_stateAfter`: each call leaves its request in the log of the backend.
-/

namespace PanelForms

open Attempts

/-! ## A backend on one route -/

namespace Script

/-- The reply that is next in a script, and the script after it; the last reply stays. -/
def next : List Reply → Reply × List Reply
  | [] => (.ok .notFound, [])
  | [last] => (last, [last])
  | reply :: rest => (reply, rest)

/-- What a call that reads a JSON value makes of a reply. -/
def read {α : Type} (shape : Json → Option α) (request : Request) : Reply → Except ApiError α
  | .error e => .error e
  | .ok response =>
    if response.isSuccess then
      match readBody? shape response.body with
      | some value => .ok value
      | none => .error (.badBody request.path)
    else .error (.status request.path response.status)

/-- A call of a script instead of a backend. -/
def call (request : Request) (replies : List Reply) : Except ApiError Json × List Reply :=
  (read some request (next replies).1, (next replies).2)

theorem replies_setReplies (b : Backend) (route : Route) (replies : List Reply) :
    (b.setReplies route replies).replies route = replies := by
  rw [Backend.setReplies, Backend.replies, List.lookup_cons]
  simp

/-- A backend takes its replies from the script of the route. -/
theorem next_replies (b : Backend) (request : Request) :
    next (b.replies (request.method, request.path)) =
      ((b.send request).1, (b.send request).2.replies (request.method, request.path)) := by
  have hlog : ∀ (b : Backend) (route : Route), (b.log request).replies route = b.replies route :=
    fun _ _ => rfl
  unfold Backend.send
  dsimp only
  split
  · next hnone => rw [hlog, hnone]; rfl
  · next hlast => rw [hlog, hlast]; rfl
  · next reply rest hshort hreplies =>
    rw [hlog, replies_setReplies, hreplies]
    cases rest with
    | nil => exact absurd rfl hshort
    | cons second rest => rfl

/-- A call that reads a JSON value sends its request and reads the reply. -/
theorem json_eq (request : Request) (b : Backend) :
    Call.json some request b = (read some request (b.send request).1, (b.send request).2) := by
  unfold Call.json Call.bindResult Call.bytes
  rcases b.send request with ⟨e | response, after⟩
  · rfl
  · by_cases hsuccess : response.isSuccess = true
    · cases hbody : readBody? some response.body <;> simp [read, hsuccess, hbody]
    · simp [read, hsuccess]

/-- Calls of a backend go as its script says. -/
theorem call_replies (request : Request) (b : Backend) :
    call request (b.replies (request.method, request.path)) =
      ((Call.json some request b).1,
        (Call.json some request b).2.replies (request.method, request.path)) := by
  rw [call, next_replies, json_eq]

/-- No route has more replies than the whole script. -/
theorem length_replies_le (b : Backend) (route : Route) :
    (b.replies route).length ≤ b.scriptLength := by
  have hfold : ∀ (routes : List (Route × List Reply)) (total : Nat),
      total + ((routes.lookup route).getD []).length ≤
        routes.foldl (fun total r => total + r.2.length) total := by
    intro routes
    induction routes with
    | nil => intro total; simp
    | cons entry rest ih =>
      intro total
      have hrest := ih (total + entry.2.length)
      rw [List.lookup_cons, List.foldl_cons]
      split
      · simp only [Option.getD_some]
        omega
      · omega
  simpa [Backend.replies, Backend.scriptLength] using hfold b.routes 0

/-! ## Using a script up -/

variable {request : Request} {replies : List Reply}

/-- The last reply of a script is given again and again. -/
theorem next_of_length_le_one (h : replies.length ≤ 1) : (next replies).2 = replies := by
  match replies, h with
  | [], _ => rfl
  | [last], _ => rfl

/-- Every reply that is taken shortens the script until one is left. -/
theorem length_next_le (replies : List Reply) :
    (next replies).2.length ≤ max 1 (replies.length - 1) := by
  match replies with
  | [] => simp [next]
  | [last] => simp [next]
  | reply :: second :: rest => simp [next]

/-- A script of one reply stays as it is. -/
theorem stateAfter_of_length_le_one (h : replies.length ≤ 1) (n : Nat) :
    stateAfter (call request) n replies = replies := by
  induction n with
  | zero => rfl
  | succ n ih =>
    rw [stateAfter, call, next_of_length_le_one h]
    exact ih

/-- Every call uses a reply up until one is left. -/
theorem length_stateAfter_le (n : Nat) (replies : List Reply) :
    (stateAfter (call request) n replies).length ≤ max 1 (replies.length - n) := by
  induction n generalizing replies with
  | zero => rw [stateAfter]; omega
  | succ n ih =>
    have hrest := ih (next replies).2
    have hnext := length_next_le replies
    have hstep : stateAfter (call request) (n + 1) replies =
        stateAfter (call request) n (next replies).2 := rfl
    rw [hstep]
    omega

end Script

/-! ## Calls that go as others -/

namespace RetryPolicy

variable {σ τ α : Type} {call : σ → Except ApiError α × σ} {image : τ → Except ApiError α × τ}
  {f : σ → τ} (himage : ∀ s, image (f s) = ((call s).1, f (call s).2))

include himage

/-- A call that is carried along by a map of the states has the same result and the state that the
map gives. -/
theorem runFrom_map (left attempt : Nat) (signal : StopSignal) (s : σ) :
    (runFrom image left attempt signal (f s)).result = (runFrom call left attempt signal s).result ∧
      (runFrom image left attempt signal (f s)).state =
        f (runFrom call left attempt signal s).state := by
  induction left generalizing attempt signal s with
  | zero =>
    rw [runFrom, runFrom]
    rcases signal.observe with ⟨_ | _, signal⟩
    · rcases hcall : call s with ⟨e | value, s'⟩ <;> simp [himage, hcall]
    · exact ⟨rfl, rfl⟩
  | succ left ih =>
    rw [runFrom, runFrom]
    rcases signal.observe with ⟨_ | _, signal⟩
    · rcases hcall : call s with ⟨e | value, s'⟩
      · cases htransient : e.isTransient with
        | false => simp [himage, hcall, htransient]
        | true =>
          rcases hwait : signal.observe with ⟨_ | _, signal⟩
          · simpa [himage, hcall, htransient, hwait] using ih (attempt + 1) signal s'
          · simp [himage, hcall, htransient, hwait]
      · simp [himage, hcall]
    · exact ⟨rfl, rfl⟩

/-- Attempts of a call that goes as another one go as the attempts of that one. -/
theorem run_map (p : RetryPolicy) (signal : StopSignal) (s : σ) :
    (p.run image signal (f s)).result = (p.run call signal s).result ∧
      (p.run image signal (f s)).state = f (p.run call signal s).state :=
  runFrom_map himage (p.attempts - 1) 1 signal s

end RetryPolicy

/-! ## Requests -/

/-- Each call leaves its request in the log of the backend, and nothing else. -/
theorem Call.Sends.requests_stateAfter {α : Type} {call : Call α} {request : Request}
    (h : call.Sends request) (k : Nat) (b : Backend) :
    (stateAfter call k b).requests = b.requests ++ List.replicate k request := by
  induction k generalizing b with
  | zero => simp [stateAfter]
  | succ k ih =>
    rw [stateAfter, ih, h b, List.append_assoc]
    rfl

end PanelForms

import Mathlib.Tactic.Simproc.ExistsAndEq
import PanelForms.Backend.Client
import PanelForms.Backend.Retry
import PanelForms.Proofs.Json.Canonical

/-!
# Attempts of a call

A call that is never stopped is attempted until it succeeds, as long as each failure may pass and
the policy allows another attempt.  Every attempt sends one request, the same one each time, so
the log of the backend tells how often a call was made.

Main results:

- Definitions `SucceedsAfter` and `RetryPolicy.Gets`: a result that the retry rule allows, with
  the requests that it took.
- Theorem `RetryPolicy.run_never_eq_ok_iff`: a call gets a result exactly as the rule says.
- Theorem `Call.json_canonical`: the JSON values that answers hold are canonical.
-/

namespace PanelForms

/-! ## The retry rule -/

section rule

variable {σ α : Type} {call : σ → Except ApiError α × σ} {s s' : σ} {a : α}

/-- A call fails for a passing reason a number of times in a row, and then succeeds. -/
inductive SucceedsAfter (call : σ → Except ApiError α × σ) : Nat → σ → α → σ → Prop where
  | now {s s' : σ} {a : α} (h : call s = (.ok a, s')) : SucceedsAfter call 0 s a s'
  | again {n : Nat} {s s₁ s' : σ} {a : α} {e : ApiError} (h : call s = (.error e, s₁))
      (hpasses : e.MayPass) (hrest : SucceedsAfter call n s₁ a s') :
      SucceedsAfter call (n + 1) s a s'

/-- A call that succeeds at once succeeds after no failure and in no other way. -/
theorem succeedsAfter_iff_of_ok {n : Nat} {s₁ : σ} {value : α} (h : call s = (.ok value, s₁)) :
    SucceedsAfter call n s a s' ↔ n = 0 ∧ value = a ∧ s₁ = s' := by
  constructor
  · rintro (hnow | ⟨hagain, -, -⟩)
    · rw [h] at hnow
      cases hnow
      exact ⟨rfl, rfl, rfl⟩
    · rw [h] at hagain
      cases hagain
  · rintro ⟨rfl, rfl, rfl⟩
    exact .now h

/-- A call that fails succeeds later only if the failure passes, after one failure more than the
call that follows. -/
theorem succeedsAfter_iff_of_error {n : Nat} {s₁ : σ} {e : ApiError}
    (h : call s = (.error e, s₁)) :
    SucceedsAfter call n s a s' ↔
      ∃ m, n = m + 1 ∧ e.isTransient = true ∧ SucceedsAfter call m s₁ a s' := by
  constructor
  · rintro (hnow | ⟨hagain, hpasses, hrest⟩)
    · rw [h] at hnow
      cases hnow
    · rw [h] at hagain
      cases hagain
      exact ⟨_, rfl, e.isTransient_iff.2 hpasses, hrest⟩
  · rintro ⟨m, rfl, htransient, hrest⟩
    exact .again h (e.isTransient_iff.1 htransient) hrest

namespace RetryPolicy

/-- Attempts that nobody stops have a result exactly if one of those that are left succeeds after
failures that pass. -/
theorem runFrom_never_eq_ok_iff {left attempt : Nat} :
    (runFrom call left attempt .never s).result = .ok a ∧
        (runFrom call left attempt .never s).state = s' ↔
      ∃ n ≤ left, SucceedsAfter call n s a s' := by
  induction left generalizing attempt s with
  | zero =>
    rw [runFrom]
    rcases hcall : call s with ⟨e | value, s₁⟩
    · simp [succeedsAfter_iff_of_error hcall]
    · simp [succeedsAfter_iff_of_ok hcall]
  | succ left ih =>
    rw [runFrom]
    rcases hcall : call s with ⟨e | value, s₁⟩
    · cases htransient : e.isTransient with
      | false => simp [succeedsAfter_iff_of_error hcall, htransient]
      | true =>
        simp only [StopSignal.observe_never, Bool.false_eq_true, if_false, htransient,
          Bool.not_true, ih, succeedsAfter_iff_of_error hcall, true_and]
        constructor
        · rintro ⟨n, hn, hsucceeds⟩
          exact ⟨n + 1, by omega, n, rfl, hsucceeds⟩
        · rintro ⟨-, hn, m, rfl, hsucceeds⟩
          exact ⟨m, by omega, hsucceeds⟩
    · simp [succeedsAfter_iff_of_ok hcall]

/-- A call that nobody stops gets a result exactly if it succeeds after fewer failures than the
policy has attempts, all of them failures that may pass. -/
theorem run_never_eq_ok_iff {p : RetryPolicy} :
    (p.run call .never s).result = .ok a ∧ (p.run call .never s).state = s' ↔
      ∃ n < p.attempts, SucceedsAfter call n s a s' := by
  have hpos : 0 < p.attempts := by
    unfold attempts
    omega
  rw [run, runFrom_never_eq_ok_iff]
  refine exists_congr fun n => and_congr_left fun _ => ?_
  omega

end RetryPolicy
end rule

/-! ## Requests -/

namespace Call

variable {α β : Type}

/-- Every attempt of the call sends this request, and no other. -/
def Sends (call : Call α) (request : Request) : Prop :=
  ∀ b, (call b).2.requests = b.requests ++ [request]

/-- Every request that is sent is recorded. -/
theorem requests_send (b : Backend) (request : Request) :
    (b.send request).2.requests = b.requests ++ [request] := by
  unfold Backend.send
  dsimp only
  split <;> rfl

/-- A call for plain bytes sends its request and no other. -/
theorem sends_bytes (request : Request) : (bytes request).Sends request := by
  intro b
  have hsend := requests_send b request
  unfold bytes
  split
  next hreply => rwa [hreply] at hsend
  next hreply =>
    rw [hreply] at hsend
    split <;> exact hsend

/-- Reading the result of a call sends nothing more. -/
theorem Sends.bindResult {call : Call α} {request : Request} (h : call.Sends request)
    (read : α → Except ApiError β) : (call.bindResult read).Sends request := by
  intro b
  have hcall := h b
  unfold Call.bindResult
  split
  next hresult => rwa [hresult] at hcall
  next hresult => rwa [hresult] at hcall

/-- A call for a value sends its request and no other. -/
theorem sends_json (shape : Json → Option α) (request : Request) :
    (json shape request).Sends request :=
  (sends_bytes request).bindResult _

/-- The log holds the request once for every attempt. -/
theorem Sends.requests_of_succeedsAfter {call : Call α} {request : Request}
    (h : call.Sends request) {n : Nat} {b b' : Backend} {a : α}
    (hsucceeds : SucceedsAfter call n b a b') :
    b'.requests = b.requests ++ List.replicate (n + 1) request := by
  induction hsucceeds with
  | @now b b' a hcall =>
    have hone := h b
    rw [hcall] at hone
    exact hone
  | @again n b b₁ b' a e hcall hpasses hrest ih =>
    have hone := h b
    rw [hcall] at hone
    rw [ih, hone, List.append_assoc]
    rfl

end Call

/-- A call gets a result as the retry rule allows, and the log grows by its request for every
attempt and by nothing else. -/
def RetryPolicy.Gets {α : Type} (p : RetryPolicy) (call : Call α) (request : Request)
    (b : Backend) (a : α) (b' : Backend) : Prop :=
  ∃ n < p.attempts, SucceedsAfter call n b a b' ∧
    b'.requests = b.requests ++ List.replicate (n + 1) request

/-- A run with a result has sent its request once for each attempt, and the last one has
succeeded. -/
theorem RetryPolicy.gets_of_run {α : Type} {p : RetryPolicy} {call : Call α} {request : Request}
    (hsends : call.Sends request) {b : Backend} {a : α}
    (h : (p.run call .never b).result = .ok a) :
    p.Gets call request b a (p.run call .never b).state := by
  obtain ⟨n, hn, hsucceeds⟩ := run_never_eq_ok_iff.1 ⟨h, rfl⟩
  exact ⟨n, hn, hsucceeds, hsends.requests_of_succeedsAfter hsucceeds⟩

/-! ## Values in answers -/

/-- The body of a reply is read as a value with sorted members. -/
theorem Json.canonical_of_readBody? {body : List UInt8} {v : Json}
    (h : readBody? some body = some v) : v.Canonical := by
  obtain ⟨text, -, hparse⟩ := Option.bind_eq_some_iff.1 h
  obtain ⟨read, hread, hsome⟩ := Option.bind_eq_some_iff.1 hparse
  cases hsome
  cases hresult : Json.parse text with
  | error e => simp [hresult, Except.toOption] at hread
  | ok found =>
    rw [hresult] at hread
    cases hread
    exact canonical_of_parse hresult

/-- A JSON value that a call gets is canonical. -/
theorem Call.json_canonical {request : Request} {b b' : Backend} {v : Json}
    (h : Call.json some request b = (.ok v, b')) : v.Canonical := by
  unfold Call.json Call.bindResult at h
  split at h
  · cases h
  · next body after hbytes =>
    dsimp only at h
    split at h
    · next found hread =>
      cases h
      exact Json.canonical_of_readBody? hread
    · cases h

/-- What a call for a value succeeds with has sorted members. -/
theorem SucceedsAfter.canonical {request : Request} {n : Nat} {b b' : Backend} {v : Json}
    (h : SucceedsAfter (Call.json some request) n b v b') : v.Canonical := by
  induction h with
  | now h => exact Call.json_canonical h
  | again _ _ _ ih => exact ih

end PanelForms

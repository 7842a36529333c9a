import PanelForms.Poll.Worker

/-!
# The updates of a chain

A worker that is never stopped delivers the updates that its backend's answers call for, until one
of them is the last.  A stop signal, whenever it fires, only cuts this sequence short.

Main results:

- Theorem `updates_terminal_last`: nothing follows the last update of a chain.
- Theorem `updates_prefix_of_never`: what a worker delivers under any stop signal is a prefix of
  what it delivers if it is never stopped.
-/

namespace PanelForms

namespace RetryPolicy

variable {σ α : Type} (call : σ → Except ApiError α × σ)

/-- Attempts are stopped, or the signal makes no difference to them. -/
theorem runFrom_stopped_or_never (left attempt : Nat) (signal : StopSignal) (s : σ) :
    (runFrom call left attempt signal s).result = .error .stopped ∨
      runFrom call left attempt .never s =
        { runFrom call left attempt signal s with signal := .never } := by
  induction left generalizing attempt signal s with
  | zero =>
    rw [runFrom, runFrom]
    rcases signal.observe with ⟨_ | _, signal⟩
    · refine Or.inr ?_
      rcases call s with ⟨_ | _, s'⟩ <;> simp
    · exact Or.inl rfl
  | succ left ih =>
    rw [runFrom, runFrom]
    rcases signal.observe with ⟨_ | _, signal⟩
    · rcases hcall : call s with ⟨e | value, s'⟩
      · cases htransient : e.isTransient with
        | false => exact Or.inr (by simp [htransient])
        | true =>
          rcases hlook : signal.observe with ⟨_ | _, signal'⟩
          · simpa [htransient, hlook] using ih (attempt + 1) signal' s'
          · exact Or.inl (by simp [htransient, hlook])
      · exact Or.inr (by simp)
    · exact Or.inl rfl

/-- The attempts of a call either find the signal fired, or are those of a call whose signal never
fires. -/
theorem run_stopped_or_never (p : RetryPolicy) (signal : StopSignal) (s : σ) :
    (p.run call signal s).result = .error .stopped ∨
      p.run call .never s = { p.run call signal s with signal := .never } :=
  runFrom_stopped_or_never call (p.attempts - 1) 1 signal s

end RetryPolicy

namespace Poll

section worker

variable {σ : Type} (policy : RetryPolicy) (call : σ → Except ApiError Json × σ)

/-- An update that another one follows is not the last of its chain. -/
theorem updates_terminal_last (rounds : Nat) (chain : Chain) (signal : StopSignal) (s : σ) :
    (runWorker policy call rounds chain signal s).updates.Pairwise
      fun u _ => u.isTerminal = false := by
  induction rounds generalizing chain signal s with
  | zero => exact List.Pairwise.nil
  | succ rounds ih =>
    rw [runWorker]
    split
    · exact List.Pairwise.nil
    · split
      · exact List.Pairwise.nil
      · exact List.pairwise_singleton _ _
      · dsimp only
        split
        · exact List.Pairwise.nil
        · split
          · exact List.pairwise_singleton _ _
          · exact List.pairwise_singleton _ _
          · split
            · exact List.pairwise_singleton _ _
            · exact List.Pairwise.cons (fun _ _ => rfl) (ih _ _ _)
          · split
            · exact List.Pairwise.nil
            · exact ih _ _ _

/-- A stop signal cuts short what a worker delivers, and so does a bound on its rounds; neither
changes, drops or reorders an update before the cut. -/
theorem updates_prefix_of_never {rounds more : Nat} (hrounds : rounds ≤ more) (chain : Chain)
    (signal : StopSignal) (s : σ) :
    (runWorker policy call rounds chain signal s).updates <+:
      (runWorker policy call more chain .never s).updates := by
  induction rounds generalizing more chain signal s with
  | zero => exact List.nil_prefix
  | succ rounds ih =>
    obtain ⟨more, rfl⟩ : ∃ n, more = n + 1 := ⟨more - 1, by omega⟩
    have hless : rounds ≤ more := by omega
    rw [runWorker, runWorker]
    rcases chain.beginRequest with ⟨_ | _, chain⟩
    · exact List.prefix_rfl
    · have hretry := policy.run_stopped_or_never call signal s
      rcases hrun : policy.run call signal s with ⟨result, signal, s'⟩
      rw [hrun] at hretry
      rcases hretry with hstopped | hnever
      · obtain rfl : result = .error .stopped := hstopped
        exact List.nil_prefix
      · rw [hnever]
        rcases result with (_ | ⟨attempts, source⟩) | response
        · exact List.nil_prefix
        · exact List.prefix_rfl
        · dsimp only
          rcases signal.observe with ⟨_ | _, signal⟩
          · rcases chain.onResponse response with ⟨_ | (_ | _ | _), chain⟩
            · exact List.prefix_rfl
            · rcases signal.observe with ⟨_ | _, signal⟩
              · exact ih hless chain signal s'
              · exact List.nil_prefix
            · rcases signal.observe with ⟨_ | _, signal⟩
              · exact List.cons_prefix_cons.2 ⟨rfl, ih hless chain signal s'⟩
              · exact List.cons_prefix_cons.2 ⟨rfl, List.nil_prefix⟩
            · exact List.prefix_rfl
          · exact List.nil_prefix

end worker

end Poll
end PanelForms

import PanelForms.Proofs.Poll.Delivery

/-!
# The chains of a poller

A poller keeps a worker for every chain that it ever started.  Only a start adds one, and nothing
that happens later changes what a chain asks for.  So a message that the owner gets answers what
the chain started last asks for.

Main definitions:

- `Poller.chains`: all chains ever started, with what they ask for.

Main results:

- Theorems `Poller.chains_start` and `Poller.chains_step`: only a start adds a chain.
- Theorem `Poll.Tracks.mem_messagesOf_last`: a message got from the current chain is one that the
  chain started last has to deliver.
-/

namespace PanelForms
namespace Poll

/-- What a chain has to deliver, given its token and what it asks for. -/
def messagesOf (updates : Token → List Update) (chain : Token × RunRequest) : List Message :=
  (updates chain.1).map fun u => ⟨chain.1, chain.2.report, u⟩

namespace Poller

/-- All chains ever started, in the order of their starts, with what they ask for. -/
def chains (p : Poller) : List (Token × RunRequest) :=
  p.workers.map fun w => (w.token, w.request)

variable {p q : Poller}

/-- The chains are read from the workers alone. -/
theorem chains_congr (h : p.workers = q.workers) : p.chains = q.chains :=
  congrArg (List.map _) h

/-- A worker may change, except for its chain. -/
theorem chains_modify (p : Poller) (i : Nat) {f : Worker → Worker}
    (htoken : ∀ w, (f w).token = w.token) (hrequest : ∀ w, (f w).request = w.request) :
    (p.workers.modify i f).map (fun w => (w.token, w.request)) = p.chains := by
  refine List.ext_getElem? fun j => ?_
  rw [chains, List.getElem?_map, List.getElem?_map, List.getElem?_modify]
  cases p.workers[j]? with
  | none => rfl
  | some w =>
    by_cases hij : i = j
    · simp [hij, htoken, hrequest]
    · simp [hij]

@[simp]
theorem chains_haltActive (p : Poller) : p.haltActive.chains = p.chains := by
  unfold haltActive
  split
  · rfl
  next i _ => exact chains_modify p i (fun _ => rfl) fun _ => rfl

/-- A start adds the chain that it returns the token of. -/
@[simp]
theorem chains_start (p : Poller) (request : RunRequest) :
    (p.start request).2.chains = p.chains ++ [((p.start request).1, request)] := by
  have hhalt : p.haltActive.workers.map (fun w => (w.token, w.request)) = p.chains :=
    chains_haltActive p
  simp only [start, chains, List.map_append, List.map_cons, List.map_nil]
  rw [hhalt]
  rfl

@[simp]
theorem chains_stop (p : Poller) : p.stop.chains = p.chains :=
  chains_haltActive p

@[simp]
theorem chains_receive (p : Poller) : p.receive.2.chains = p.chains :=
  chains_congr p.workers_receive

@[simp]
theorem chains_tryNext (p : Poller) : p.tryNext.2.chains = p.chains :=
  chains_congr p.workers_tryNext

/-- Delivering an update adds no chain. -/
@[simp]
theorem chains_work (updates : Token → List Update) (p : Poller) (i : Nat) :
    (p.work updates i).chains = p.chains := by
  unfold work
  split
  · rfl
  split
  · rfl
  split
  · rfl
  exact chains_modify p i (fun _ => rfl) fun _ => rfl

@[simp]
theorem chains_notice (p : Poller) (i : Nat) : (p.notice i).chains = p.chains :=
  chains_modify p i (fun _ => rfl) fun _ => rfl

/-- Only a start adds a chain. -/
theorem chains_step (updates : Token → List Update) (p : Poller) (a : Action) :
    (p.step updates a).2.chains =
      p.chains ++ match a with
        | .start request => [((p.start request).1, request)]
        | _ => [] := by
  cases a <;> simp [step]

end Poller

/-- A message that the owner got from the chain that is still current is one that the chain started
last has to deliver. -/
theorem Tracks.mem_messagesOf_last {updates : Token → List Update} {p : Poller} {h : List Entry}
    {m : Message} (ht : Tracks updates p h) (hm : m ∈ appliedIn h) (hlatest : Latest h m.token) :
    ∃ chain, p.chains.getLast? = some chain ∧ m ∈ messagesOf updates chain := by
  obtain ⟨w, hw, htoken⟩ := ht.exists_worker (List.mem_append_left _ hm)
  refine ⟨(w.token, w.request), ?_, ?_⟩
  · obtain ⟨i, hi⟩ := List.mem_iff_getElem?.1 hw
    have hnumber : m.token.number = p.workers.length :=
      (ht.reflects.newest m.token hlatest).trans ht.counted
    rw [← htoken, ht.numbered i w hi] at hnumber
    have hlast : p.workers.length - 1 = i := by
      rw [← hnumber]
      rfl
    rw [Poller.chains, List.getLast?_map, List.getLast?_eq_getElem?, hlast, hi]
    rfl
  · have hown : m ∈ ofChain w.token (appliedIn h) := mem_ofChain.2 ⟨hm, htoken.symm⟩
    exact (ht.on_course w hw).in_order.subset hown

end Poll
end PanelForms

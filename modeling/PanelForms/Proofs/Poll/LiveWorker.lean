import PanelForms.Proofs.Poll.ChainMessages
import PanelForms.Proofs.Poll.Chains

/-!
# The live worker of a poller

A poller holds the worker of its current chain, so that it can tell it to stop, and lets go of it
in two ways only: it tells the worker to stop, or it has got the last update of its chain.  Hence
every other worker ever started has been told to stop or has nothing more to deliver, however late
its messages are taken out of the queue.

Main definitions:

- `Worker.HasFinished`, `Worker.Retired`: a worker that will deliver nothing, told to stop or not.
- `Poll.OneActive`: the poller holds the worker of the current chain, and all others are retired.

Main results:

- Theorem `Tracks.mem_delivered_of_waiting`: what waits for the current chain has been delivered by
  its worker.
- Theorem `OneActive.step`: every action of the owner or a worker keeps this.
- Theorem `Poller.tokens_after`: every worker is one of a chain that was started.
- Theorem `Poller.run_one_live`: at most one worker is live in any state that a poller reaches.
-/

namespace PanelForms
namespace Poll

/-! ## Retired workers -/

namespace Worker

/-- The worker has delivered the last update of its chain. -/
def HasFinished (updates : Token → List Update) (w : Worker) : Prop :=
  ∃ u ∈ (updates w.token).take w.delivered, u.isTerminal = true

/-- The worker has been told to stop, or it has delivered the last update of its chain. -/
def Retired (updates : Token → List Update) (w : Worker) : Prop :=
  w.halted = true ∨ w.HasFinished updates

/-- A worker that is retired stays retired, whatever else it delivers. -/
theorem Retired.mono {updates : Token → List Update} {v w : Worker} (h : v.Retired updates)
    (htoken : w.token = v.token) (hhalted : w.halted = v.halted)
    (hdelivered : v.delivered ≤ w.delivered) : w.Retired updates := by
  rcases h with h | ⟨u, hu, hterminal⟩
  · exact Or.inl (hhalted.trans h)
  · refine Or.inr ⟨u, ?_, hterminal⟩
    rw [htoken]
    exact (List.take_subset_take_left _ hdelivered) hu

end Worker

/-- A worker of the current chain has delivered what waits of that chain in the queue. -/
theorem Tracks.mem_delivered_of_waiting {updates : Token → List Update} {p : Poller}
    {h : List Entry} {m : Message} {w : Worker} (ht : Tracks updates p h) (hm : m ∈ p.queue)
    (hlatest : Latest h m.token) (hw : w ∈ p.workers) (htoken : w.token = m.token) :
    m.update ∈ (updates w.token).take w.delivered := by
  have hconserved := (ht.on_course w hw).conserved (htoken ▸ hlatest)
  have hwaiting : m ∈ ofChain w.token p.queue := mem_ofChain.2 ⟨hm, htoken.symm⟩
  have hdelivered : m ∈ (w.messages updates).take w.delivered := by
    rw [← hconserved]
    exact List.mem_append_right _ hwaiting
  rw [Worker.messages, ← List.map_take] at hdelivered
  obtain ⟨u, hu, rfl⟩ := List.mem_map.1 hdelivered
  exact hu

/-! ## The worker that is held -/

/-- The poller holds the worker of its current chain as long as the coordinator is open, and every
other worker is retired. -/
structure OneActive (updates : Token → List Update) (p : Poller) : Prop where
  active_isSome : p.active.isSome = p.coordinator.isOpen
  current : ∀ i, p.active = some i →
    ∃ w, p.workers[i]? = some w ∧ w.token = p.coordinator.current
  others : ∀ (i : Nat) (w : Worker), p.workers[i]? = some w → p.active ≠ some i →
    w.Retired updates

namespace OneActive

variable {updates : Token → List Update} {p : Poller} {h : List Entry} {m : Message}

theorem new (updates : Token → List Update) : OneActive updates .new where
  active_isSome := rfl
  current := nofun
  others := nofun

/-- Telling the active worker to stop retires the last worker. -/
theorem haltActive (hp : OneActive updates p) :
    p.haltActive.active = none ∧
      ∀ (i : Nat) (w : Worker), p.haltActive.workers[i]? = some w → w.Retired updates := by
  unfold Poller.haltActive
  split
  next hnone => exact ⟨hnone, fun i w hw => hp.others i w hw (by rw [hnone]; nofun)⟩
  next j hj =>
    refine ⟨rfl, fun i w hw => ?_⟩
    simp only [List.getElem?_modify, Option.map_eq_map, Option.map_eq_some_iff] at hw
    obtain ⟨old, hold, rfl⟩ := hw
    split
    · exact Or.inl rfl
    next hne =>
      refine hp.others i old hold ?_
      rw [hj]
      exact fun heq => hne (Option.some.inj heq)

/-- A stop retires the active worker. -/
theorem stop (hp : OneActive updates p) : OneActive updates p.stop := by
  obtain ⟨hactive, hretired⟩ := hp.haltActive
  have hnone : p.stop.active = none := hactive
  refine ⟨?_, fun i hi => ?_, fun i w hw _ => hretired i w hw⟩
  · rw [hnone]
    rfl
  · rw [hnone] at hi
    cases hi

/-- A start retires the active worker before it adds the new one. -/
theorem start (hp : OneActive updates p) (request : RunRequest) :
    OneActive updates (p.start request).2 := by
  obtain ⟨-, hretired⟩ := hp.haltActive
  have hactive : (p.start request).2.active = some p.haltActive.workers.length := rfl
  have hworkers : (p.start request).2.workers =
      p.haltActive.workers ++ [⟨(p.start request).1, request, 0, false, false⟩] := rfl
  refine ⟨rfl, fun i hi => ?_, fun i w hw hother => ?_⟩
  · obtain rfl : p.haltActive.workers.length = i := Option.some.inj (hactive.symm.trans hi)
    exact ⟨⟨(p.start request).1, request, 0, false, false⟩, by simp [hworkers], rfl⟩
  · rw [hactive, ne_eq, Option.some.injEq] at hother
    rw [hworkers, List.getElem?_append] at hw
    split at hw
    · exact hretired i w hw
    next hge =>
      have hgreater : i - p.haltActive.workers.length ≠ 0 := by omega
      rw [List.getElem?_singleton, if_neg hgreater] at hw
      cases hw

/-- A worker may deliver or notice something, as long as it stays with its chain. -/
theorem modify (hp : OneActive updates p) {i : Nat} {f : Worker → Worker} {queue : List Message}
    (htoken : ∀ w, (f w).token = w.token) (hhalted : ∀ w, (f w).halted = w.halted)
    (hdelivered : ∀ w, w.delivered ≤ (f w).delivered) :
    OneActive updates { p with workers := p.workers.modify i f, queue := queue } := by
  refine ⟨hp.active_isSome, fun j hj => ?_, fun j w hw hother => ?_⟩
  · obtain ⟨w, hw, hcurrent⟩ := hp.current j hj
    refine ⟨if i = j then f w else w, by simp [List.getElem?_modify, hw], ?_⟩
    split
    · exact (htoken w).trans hcurrent
    · exact hcurrent
  · simp only [List.getElem?_modify, Option.map_eq_map, Option.map_eq_some_iff] at hw
    obtain ⟨old, hold, rfl⟩ := hw
    have hretired := hp.others j old hold hother
    split
    · exact hretired.mono (htoken old) (hhalted old) (hdelivered old)
    · exact hretired

/-- A retired worker stays retired, and the active one stays the only other one. -/
theorem work (hp : OneActive updates p) (i : Nat) : OneActive updates (p.work updates i) := by
  unfold Poller.work
  split
  · exact hp
  split
  · exact hp
  split
  · exact hp
  exact hp.modify (fun _ => rfl) (fun _ => rfl) fun w => Nat.le_succ w.delivered

/-- Noticing a stop makes nobody active. -/
theorem notice (hp : OneActive updates p) (i : Nat) : OneActive updates (p.notice i) :=
  hp.modify (fun _ => rfl) (fun _ => rfl) fun w => Nat.le_refl w.delivered

/-- Every turn of the owner keeps this.  The worker that is let go of without being told to stop
has delivered the update that the owner has just got, the last one of its chain. -/
theorem receive (hp : OneActive updates p) (ht : Tracks updates p h) :
    OneActive updates p.receive.2 := by
  cases hqueue : p.queue with
  | nil => simpa [Poller.receive, hqueue] using hp
  | cons m rest =>
    cases happlies : p.coordinator.applies m with
    | false =>
      obtain ⟨trace, haccept⟩ := Coordinator.accept_of_not_applies happlies
      rw [Poller.receive_of_not_applies hqueue happlies, haccept]
      exact ⟨hp.active_isSome, hp.current, hp.others⟩
    | true =>
      obtain ⟨hopen, hcurrent⟩ := Coordinator.applies_iff.1 happlies
      rw [Poller.receive_of_applies hqueue happlies, Coordinator.accept_of_applies happlies]
      cases hterminal : m.update.isTerminal with
      | false => exact ⟨hp.active_isSome.trans hopen, hp.current, hp.others⟩
      | true =>
        refine ⟨rfl, fun i hi => ?_, fun i w hw _ => ?_⟩
        · cases hi
        by_cases hactive : p.active = some i
        · obtain ⟨held, hheld, htoken⟩ := hp.current i hactive
          obtain rfl : held = w := Option.some.inj (hheld.symm.trans hw)
          have hwaiting : m ∈ p.queue := hqueue ▸ List.mem_cons_self
          have hlatest : Latest h m.token := (ht.reflects.applies_iff_live.1 happlies).latest
          exact Or.inr ⟨m.update, ht.mem_delivered_of_waiting hwaiting hlatest
            (List.mem_of_getElem? hw) (htoken.trans hcurrent), hterminal⟩
        · exact hp.others i w hw hactive

section terminal

variable (hterminal : ∀ t, (updates t).Pairwise fun u _ => u.isTerminal = false)
include hterminal

/-- Taking messages lets go of the active worker only with the last message of its chain, which that
worker has delivered. -/
theorem tryNext (hp : OneActive updates p) (ht : Tracks updates p h) :
    OneActive updates p.tryNext.2 := by
  have hboth : ∃ h, Tracks updates p.tryNext.2 h ∧ OneActive updates p.tryNext.2 := by
    refine Poller.tryNext_induction
      (motive := fun q => ∃ h, Tracks updates q h ∧ OneActive updates q) ?_ ⟨h, ht, hp⟩
    rintro q ⟨g, hg, hq⟩
    exact ⟨_, hg.receive hterminal, hq.receive hg⟩
  obtain ⟨-, -, hafter⟩ := hboth
  exact hafter

/-- Every action of the owner or a worker keeps this. -/
theorem step (hp : OneActive updates p) (ht : Tracks updates p h) (a : Poller.Action) :
    OneActive updates (p.step updates a).2 := by
  cases a with
  | start request => exact hp.start request
  | stop => exact hp.stop
  | receive => exact hp.receive ht
  | tryNext => exact hp.tryNext hterminal ht
  | work i => exact hp.work i
  | notice i => exact hp.notice i

/-- Any actions leave one worker at most that is not retired. -/
theorem run (hp : OneActive updates p) (ht : Tracks updates p h) (actions : List Poller.Action) :
    OneActive updates (p.after updates actions) := by
  induction actions generalizing p h with
  | nil => exact hp
  | cons a actions ih => exact ih (hp.step hterminal ht a) (ht.step hterminal a)

end terminal

/-- At most one worker is not retired. -/
theorem unique (hp : OneActive updates p) {i j : Nat} {v w : Worker}
    (hv : p.workers[i]? = some v) (hw : p.workers[j]? = some w)
    (hvlive : ¬ v.Retired updates) (hwlive : ¬ w.Retired updates) : i = j := by
  have hi : p.active = some i := Decidable.byContradiction fun hne => hvlive (hp.others i v hv hne)
  have hj : p.active = some j := Decidable.byContradiction fun hne => hwlive (hp.others j w hw hne)
  exact Option.some.inj (hi.symm.trans hj)

end OneActive

/-! ## All workers ever started -/

namespace Poller

theorem starts_applied (got : Option Message) : starts (got.toList.map .applied) = [] := by
  cases got <;> rfl

/-- The workers are those of the chains started, in order. -/
theorem tokens_step (updates : Token → List Update) (p : Poller) (a : Action) :
    (p.step updates a).2.workers.map (·.token) =
      p.workers.map (·.token) ++ starts (p.seen a) := by
  have htokens : ∀ q : Poller, q.workers.map (·.token) = q.chains.map (·.1) := by
    intro q
    simp [chains]
  rw [htokens, htokens, chains_step, List.map_append]
  cases a with
  | receive | tryNext => simp [seen, starts_applied]
  | start | stop | work | notice => rfl

/-- There is a worker for every start that the owner has seen, in order, and no other worker. -/
theorem tokens_after (updates : Token → List Update) (p : Poller) (actions : List Action) :
    (p.after updates actions).workers.map (·.token) =
      p.workers.map (·.token) ++ starts (p.log updates actions) := by
  induction actions generalizing p with
  | nil => exact (List.append_nil _).symm
  | cons a actions ih =>
    have hrest := ih (p.step updates a).2
    rw [tokens_step, List.append_assoc] at hrest
    refine hrest.trans (congrArg _ ?_)
    exact (List.filterMap_append ..).symm

end Poller

/-! ## At most one live worker -/

/-- Which workers of a poller are live, given what the owner has seen. -/
structure OneLive (updates : Token → List Update) (p : Poller) (h : List Entry) : Prop where
  /-- The workers are those of all chains ever started, in order. -/
  spawned : p.workers.map (·.token) = starts h
  /-- A worker is held exactly while the coordinator is open. -/
  held_iff : p.active.isSome = true ↔ p.isPolling = true
  /-- The worker held is the one of the current chain, and it has not been told to stop. -/
  held : ∀ i, p.active = some i → ∃ w, p.workers[i]? = some w ∧ w.token = p.currentToken ∧
    w.halted = false ∧ w.gone = false
  /-- Every other worker has been told to stop or has delivered its last update. -/
  others : ∀ (i : Nat) (w : Worker), p.workers[i]? = some w → p.active ≠ some i →
    w.halted = true ∨ w.HasFinished updates
  /-- A worker that has delivered its last update has nothing more to deliver. -/
  finished : ∀ w ∈ p.workers, w.HasFinished updates → (updates w.token).length ≤ w.delivered
  /-- Two workers that have neither been told to stop nor delivered their last updates are one. -/
  unique : ∀ (i j : Nat) (v w : Worker), p.workers[i]? = some v → p.workers[j]? = some w →
    ¬ (v.halted = true ∨ v.HasFinished updates) → ¬ (w.halted = true ∨ w.HasFinished updates) →
    i = j

/-- Nothing is left to deliver after the last update. -/
theorem Worker.HasFinished.length_le {updates : Token → List Update} {w : Worker}
    (h : w.HasFinished updates)
    (hterminal : (updates w.token).Pairwise fun u _ => u.isTerminal = false) :
    (updates w.token).length ≤ w.delivered := by
  obtain ⟨u, hu, hlast⟩ := h
  refine Decidable.byContradiction fun hless => ?_
  have hlt : w.delivered < (updates w.token).length := Nat.lt_of_not_le hless
  rw [← List.take_append_drop w.delivered (updates w.token), List.pairwise_append] at hterminal
  have hnext : (updates w.token)[w.delivered] ∈ (updates w.token).drop w.delivered := by
    rw [List.drop_eq_getElem_cons hlt]
    exact List.mem_cons_self
  rw [hterminal.2.2 u hu _ hnext] at hlast
  cases hlast

/-- One worker at most is live, and it is the one that the poller holds. -/
theorem OneActive.oneLive {updates : Token → List Update} {p : Poller} {h : List Entry}
    (hp : OneActive updates p) (ht : Tracks updates p h)
    (hterminal : ∀ t, (updates t).Pairwise fun u _ => u.isTerminal = false)
    (hspawned : p.workers.map (·.token) = starts h) : OneLive updates p h where
  spawned := hspawned
  held_iff := by rw [hp.active_isSome, Poller.isPolling]
  held i hi := by
    obtain ⟨w, hw, hcurrent⟩ := hp.current i hi
    have hmem := List.mem_of_getElem? hw
    have hsome : w.token ≠ .none := by
      rw [ht.numbered i w hw]
      nofun
    have hlatest : Latest h w.token := (ht.reflects.latest_iff _).2 ⟨hcurrent.symm, hsome⟩
    exact ⟨w, hw, hcurrent, (ht.on_course w hmem).unhalted hlatest⟩
  others := hp.others
  finished w _ hfinished := hfinished.length_le (hterminal w.token)
  unique _ _ _ _ hv hw hvlive hwlive := hp.unique hv hw hvlive hwlive

/-- A chain that ends without being stopped has delivered a last update. -/
theorem exists_last_of_ended {σ : Type} {policy : RetryPolicy}
    {call : σ → Except ApiError Json × σ} {rounds : Nat} {token : Token} {s : σ}
    (hended : (runWorker policy call rounds (.new token) .never s).ended = true) :
    ∃ u, (runWorker policy call rounds (.new token) .never s).updates.getLast? = some u ∧
      u.isTerminal = true := by
  rw [← outcome_recordWorker policy call ""] at hended ⊢
  rcases going_or_ended rounds (ready_new token) s with ⟨responses, hgoing⟩ | ⟨responses, u, hlast⟩
  · rw [hgoing.ended] at hended
    cases hended
  · refine ⟨u, by simp [hlast.updates], ?_⟩
    obtain ⟨s₁, -, hends⟩ := hlast.ends
    cases hends <;> rfl

/-- Whatever the backend answers to each chain, and however the actions of the owner interleave
with those of the workers, at most one worker is live: all others have been told to stop, or have
delivered the last update, which every chain delivers that ends by itself. -/
theorem Poller.run_one_live {σ : Type} (policy : RetryPolicy)
    (call : Token → σ → Except ApiError Json × σ) (rounds : Token → Nat) (state : Token → σ)
    (actions : List Poller.Action) :
    (∀ t, (runWorker policy (call t) (rounds t) (.new t) .never (state t)).ended = true →
        ∃ u, (chainUpdates policy call rounds state t).getLast? = some u ∧
          u.isTerminal = true) ∧
      OneLive (chainUpdates policy call rounds state)
        (Poller.new.after (chainUpdates policy call rounds state) actions)
        (Poller.new.log (chainUpdates policy call rounds state) actions) := by
  refine ⟨fun t => exists_last_of_ended, ?_⟩
  have hterminal := chainUpdates_terminal_last policy call rounds state
  have ht := (Tracks.new (chainUpdates policy call rounds state)).run hterminal actions
  rw [List.nil_append] at ht
  refine ((OneActive.new _).run hterminal (Tracks.new _) actions).oneLive ht hterminal ?_
  exact Poller.tokens_after _ Poller.new actions

/-- A second start tells the first worker to stop and holds the second one. -/
example (updates : Token → List Update) (request : RunRequest) :
    (Poller.new.after updates [.start request, .start request]).active = some 1 ∧
      (Poller.new.after updates [.start request, .start request]).workers.map (·.halted) =
        [true, false] :=
  ⟨rfl, rfl⟩

end Poll
end PanelForms

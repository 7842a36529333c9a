import PanelForms.Poll.Poller
import PanelForms.Proofs.Poll.ChainUpdates
import PanelForms.Proofs.Poll.Gating

/-!
# What the owner of a poller gets

The workers of all chains ever started deliver into one queue, in any interleaving with what the
owner does.  Nevertheless the owner gets the updates of the current chain only, in order, and none
of them is lost.  A worker is taken to deliver the updates of its chain one by one until it notices
that it was told to stop, since a stop signal does no more than to cut them short.

Main definitions:

- `Poller.log`: what the owner sees of a run, as the history of its coordinator.
- `Worker.messages`: what a worker has to deliver.
- `Poll.OnCourse`: how far the messages of a worker have come.
- `Poll.Tracks`: the state of a poller agrees with what its owner has seen.

Main results:

- Theorems `Poller.tryNext_cases` and `Poller.queue_drain`: no message is waiting only if the queue
  runs empty, and draining empties it.
- Theorem `Tracks.step`: every action of the owner or a worker keeps the agreement.
- Theorem `Poller.run_delivers_current`: what the owner gets over any run.
-/

namespace PanelForms
namespace Poll

/-! ## What the owner sees -/

/-- The messages of a chain. -/
def ofChain (t : Token) (messages : List Message) : List Message :=
  messages.filter (·.token = t)

theorem ofChain_append (t : Token) (messages others : List Message) :
    ofChain t (messages ++ others) = ofChain t messages ++ ofChain t others :=
  List.filter_append ..

theorem ofChain_self {t : Token} {m : Message} (hm : m.token = t) : ofChain t [m] = [m] := by
  simp [ofChain, hm]

theorem ofChain_other {t : Token} {m : Message} (hm : m.token ≠ t) : ofChain t [m] = [] := by
  simp [ofChain, hm]

theorem ofChain_eq_nil {t : Token} {messages : List Message}
    (h : ∀ m ∈ messages, m.token ≠ t) : ofChain t messages = [] := by
  simpa [ofChain] using h

theorem mem_ofChain {t : Token} {messages : List Message} {m : Message} :
    m ∈ ofChain t messages ↔ m ∈ messages ∧ m.token = t := by
  simp [ofChain]

/-- The messages that the owner gets now come after those that it got before. -/
theorem appliedIn_append_applied {h : List Entry} {messages : List Message} :
    appliedIn (h ++ messages.map .applied) = appliedIn h ++ messages := by
  simp [appliedIn, List.filterMap_map, Function.comp_def, Entry.applied?]

/-- Getting messages starts no chain and stops none. -/
theorem latest_append_applied {h : List Entry} {messages : List Message} {t : Token} :
    Latest (h ++ messages.map .applied) t ↔ Latest h t := by
  induction messages generalizing h with
  | nil => simp
  | cons m rest ih =>
    rw [List.map_cons, List.append_cons, ih]
    exact latest_concat_applied

/-- What a worker has to deliver if it is never told to stop. -/
def Worker.messages (updates : Token → List Update) (w : Worker) : List Message :=
  (updates w.token).map fun u => ⟨w.token, w.request.report, u⟩

namespace Poller

/-- What the owner sees of an action: the token that a start returns, a stop, and the message that
it gets. -/
def seen (p : Poller) : Action → List Entry
  | .start request => [.started (p.start request).1]
  | .stop => [.stopped]
  | .receive => p.receive.1.toList.map .applied
  | .tryNext => p.tryNext.1.toList.map .applied
  | .work _ | .notice _ => []

/-- What the owner sees of some actions. -/
def log (updates : Token → List Update) : Poller → List Action → List Entry
  | _, [] => []
  | p, a :: rest => p.seen a ++ log updates (p.step updates a).2 rest

/-- The poller after some actions. -/
def after (updates : Token → List Update) (p : Poller) (actions : List Action) : Poller :=
  (p.run updates actions).2

end Poller

/-! ## How far the messages of a worker have come -/

/-- How far the messages of a worker have come, given what the owner has seen and what waits in
the queue. -/
structure OnCourse (updates : Token → List Update) (h : List Entry) (queue : List Message)
    (w : Worker) : Prop where
  /-- The owner got the first messages of the worker, in order. -/
  in_order : ofChain w.token (appliedIn h) <+: w.messages updates
  /-- Of the current chain, everything delivered was got by the owner or waits in the queue. -/
  conserved : Latest h w.token →
    ofChain w.token (appliedIn h) ++ ofChain w.token queue =
      (w.messages updates).take w.delivered
  /-- The current chain is live until the owner has got its last update. -/
  finished : Latest h w.token → ¬ Live h w.token →
    ∃ m ∈ appliedIn h, m.token = w.token ∧ m.update.isTerminal = true
  /-- The worker of the current chain has not been told to stop. -/
  unhalted : Latest h w.token → w.halted = false ∧ w.gone = false

namespace OnCourse

variable {updates : Token → List Update} {h : List Entry} {queue : List Message} {w : Worker}
  {m : Message}

/-- Nothing is required of a chain that is not current, except that what the owner got of it was in
order. -/
theorem of_not_latest (hw : ofChain w.token (appliedIn h) <+: w.messages updates)
    (hnot : ¬ Latest h w.token) : OnCourse updates h queue w where
  in_order := hw
  conserved hlatest := (hnot hlatest).elim
  finished hlatest := (hnot hlatest).elim
  unhalted hlatest := (hnot hlatest).elim

/-- A worker may put its next message into the queue. -/
theorem put_own (hw : OnCourse updates h queue w) {u : Update}
    (hnext : (updates w.token)[w.delivered]? = some u) :
    OnCourse updates h (queue ++ [⟨w.token, w.request.report, u⟩])
      { w with delivered := w.delivered + 1 } where
  in_order := hw.in_order
  conserved hlatest := by
    have hmessage : (w.messages updates)[w.delivered]? = some ⟨w.token, w.request.report, u⟩ := by
      simp [Worker.messages, hnext]
    have hown : ofChain w.token [⟨w.token, w.request.report, u⟩] =
        [⟨w.token, w.request.report, u⟩] := ofChain_self rfl
    change ofChain w.token _ ++ ofChain w.token _ = (w.messages updates).take (w.delivered + 1)
    rw [ofChain_append, hown, ← List.append_assoc, hw.conserved hlatest,
      List.take_add_one, hmessage]
    rfl
  finished := hw.finished
  unhalted := hw.unhalted

/-- The messages of other chains may be put into the queue. -/
theorem put_other (hw : OnCourse updates h queue w) (hm : m.token ≠ w.token) :
    OnCourse updates h (queue ++ [m]) w where
  in_order := hw.in_order
  conserved hlatest := by
    rw [ofChain_append, ofChain_other hm, List.append_nil]
    exact hw.conserved hlatest
  finished := hw.finished
  unhalted := hw.unhalted

/-- A worker may notice that it was told to stop. -/
theorem notice (hw : OnCourse updates h queue w) :
    OnCourse updates h queue { w with gone := w.gone || w.halted } where
  in_order := hw.in_order
  conserved := hw.conserved
  finished := hw.finished
  unhalted hlatest := by
    obtain ⟨hhalted, hgone⟩ := hw.unhalted hlatest
    exact ⟨hhalted, by simp [hhalted, hgone]⟩

/-- The owner may get the next message in the queue if its chain, the current one, is live. -/
theorem applied (hw : OnCourse updates h (m :: queue) w) (hlive : Live h m.token)
    (hcurrent : Latest h w.token → w.token = m.token) :
    OnCourse updates (h ++ [.applied m]) queue w := by
  have happlied : appliedIn (h ++ [.applied m]) = appliedIn h ++ [m] := appliedIn_concat_applied
  by_cases hm : m.token = w.token
  · have hmoved : ofChain w.token (appliedIn (h ++ [.applied m])) ++ ofChain w.token queue =
        (w.messages updates).take w.delivered := by
      have hconserved := hw.conserved (hm ▸ hlive.latest)
      rw [← List.singleton_append, ofChain_append, ← List.append_assoc] at hconserved
      rw [happlied, ofChain_append, hconserved]
    refine ⟨?_, fun _ => hmoved, fun hlatest hnot => ⟨m, ?_, hm, ?_⟩, fun hlatest => ?_⟩
    · exact (List.prefix_append _ _).trans (hmoved ▸ List.take_prefix _ _)
    · simp [happlied]
    · cases hterminal : m.update.isTerminal with
      | true => rfl
      | false => exact (hnot (live_concat_applied.2 ⟨hterminal, hm ▸ hlive⟩)).elim
    · exact hw.unhalted (latest_concat_applied.1 hlatest)
  · refine of_not_latest ?_ fun hlatest => hm (hcurrent (latest_concat_applied.1 hlatest)).symm
    rw [happlied, ofChain_append, ofChain_other hm, List.append_nil]
    exact hw.in_order

/-- Once the last update of the current chain has been got, nothing of it waits in the queue. -/
theorem not_latest_of_waiting (hw : OnCourse updates h queue w)
    (hterminal : (updates w.token).Pairwise fun u _ => u.isTerminal = false)
    (hm : m ∈ queue) (htoken : m.token = w.token) (hnot : ¬ Live h w.token) :
    ¬ Latest h w.token := by
  intro hlatest
  obtain ⟨n, hn, hsame, hlast⟩ := hw.finished hlatest hnot
  have hmessages : (w.messages updates).Pairwise fun m _ => m.update.isTerminal = false :=
    List.pairwise_map.2 hterminal
  have hdelivered := hmessages.sublist (List.take_sublist w.delivered _)
  rw [← hw.conserved hlatest, List.pairwise_append] at hdelivered
  have hfollowed := hdelivered.2.2 n (mem_ofChain.2 ⟨hn, hsame⟩) m (mem_ofChain.2 ⟨hm, htoken⟩)
  rw [hlast] at hfollowed
  cases hfollowed

/-- The next message in the queue may be discarded if its chain is not live. -/
theorem discarded (hw : OnCourse updates h (m :: queue) w)
    (hterminal : (updates w.token).Pairwise fun u _ => u.isTerminal = false)
    (hnot : ¬ Live h m.token) : OnCourse updates h queue w := by
  by_cases hm : m.token = w.token
  · exact of_not_latest hw.in_order
      (hw.not_latest_of_waiting hterminal List.mem_cons_self hm (hm ▸ hnot))
  · refine ⟨hw.in_order, fun hlatest => ?_, hw.finished, hw.unhalted⟩
    have hconserved := hw.conserved hlatest
    rwa [← List.singleton_append, ofChain_append, ofChain_other hm] at hconserved

/-- A chain that has just been started has delivered nothing. -/
theorem fresh {t : Token} {request : RunRequest} (happlied : ∀ m ∈ appliedIn h, m.token ≠ t)
    (hqueue : ∀ m ∈ queue, m.token ≠ t) (hlive : Live h t) :
    OnCourse updates h queue ⟨t, request, 0, false, false⟩ where
  in_order := by
    rw [ofChain_eq_nil happlied]
    exact List.nil_prefix
  conserved _ := by
    rw [ofChain_eq_nil happlied, ofChain_eq_nil hqueue]
    rfl
  finished _ hnot := (hnot hlive).elim
  unhalted _ := ⟨rfl, rfl⟩

end OnCourse

/-! ## Every action keeps the agreement -/

namespace Poller

variable {p : Poller} {m : Message} {rest : List Message}

/-- A message that applies is handed on, and the last one of a chain retires its worker. -/
theorem accept_of_applies (h : p.coordinator.applies m = true) :
    p.accept m = (some m,
      { p with
        coordinator := (p.coordinator.accept m).2
        active := if m.update.isTerminal then none else p.active }) := by
  simp only [accept, Coordinator.accept_of_applies h]
  split <;> rfl

/-- A message that does not apply changes the coordinator at most. -/
theorem accept_of_not_applies (h : p.coordinator.applies m = false) :
    p.accept m = (none, { p with coordinator := (p.coordinator.accept m).2 }) := by
  obtain ⟨trace, heq⟩ := Coordinator.accept_of_not_applies h
  simp [accept, heq]

/-- The owner gets the oldest message if it applies. -/
theorem receive_of_applies (hqueue : p.queue = m :: rest) (h : p.coordinator.applies m = true) :
    p.receive = (some m,
      { p with
        coordinator := (p.coordinator.accept m).2
        active := if m.update.isTerminal then none else p.active
        queue := rest }) := by
  simp only [receive, hqueue]
  exact accept_of_applies (p := { p with queue := rest }) h

/-- The oldest message is discarded if it does not apply. -/
theorem receive_of_not_applies (hqueue : p.queue = m :: rest)
    (h : p.coordinator.applies m = false) :
    p.receive = (none,
      { p with coordinator := (p.coordinator.accept m).2, queue := rest }) := by
  simp only [receive, hqueue]
  exact accept_of_not_applies (p := { p with queue := rest }) h

/-- Messages are taken out of the queue that is given, whatever the queue of the poller. -/
theorem takeFrom_withQueue (queue messages : List Message) (p : Poller) :
    takeFrom messages { p with queue := queue } = takeFrom messages p := by
  induction messages generalizing p with
  | nil => rfl
  | cons m messages ih =>
    cases h : p.coordinator.applies m with
    | true =>
      simp only [takeFrom, accept_of_applies h,
        accept_of_applies (p := { p with queue := queue }) h]
    | false =>
      simp only [takeFrom, accept_of_not_applies h,
        accept_of_not_applies (p := { p with queue := queue }) h]
      exact ih { p with coordinator := (p.coordinator.accept m).2 }

/-- Nothing is got from an empty queue. -/
theorem tryNext_of_nil (hqueue : p.queue = []) : p.tryNext = (none, p) := by
  obtain ⟨coordinator, workers, active, queue⟩ := p
  obtain rfl : queue = [] := hqueue
  rfl

/-- The owner takes one turn, and more turns unless it gets a message. -/
theorem tryNext_of_cons (hqueue : p.queue = m :: rest) :
    p.tryNext = if p.coordinator.applies m then p.receive else p.receive.2.tryNext := by
  cases h : p.coordinator.applies m with
  | true =>
    simp only [tryNext, hqueue, takeFrom, accept_of_applies h, receive_of_applies hqueue h,
      if_true]
  | false =>
    simp only [tryNext, hqueue, takeFrom, accept_of_not_applies h,
      receive_of_not_applies hqueue h, Bool.false_eq_true, if_false]
    exact (takeFrom_withQueue rest rest
      { p with coordinator := (p.coordinator.accept m).2, queue := m :: rest }).symm

/-- What every turn of the owner keeps, taking turns until it gets a message keeps. -/
theorem tryNext_induction {motive : Poller → Prop} (hturn : ∀ p, motive p → motive p.receive.2)
    (h : motive p) : motive p.tryNext.2 := by
  generalize hqueue : p.queue = queue
  induction queue generalizing p with
  | nil => rwa [tryNext_of_nil hqueue]
  | cons m rest ih =>
    have hreceive := hturn p h
    rw [tryNext_of_cons hqueue]
    cases happlies : p.coordinator.applies m with
    | true => exact hreceive
    | false =>
      rw [receive_of_not_applies hqueue happlies] at hreceive ⊢
      exact ih hreceive rfl

/-- Taking a message that is waiting leaves nothing in the queue if there is no such message, and
less than before if there is one. -/
theorem tryNext_cases (p : Poller) :
    (p.tryNext.1 = none ∧ p.tryNext.2.queue = []) ∨
      ∃ m, p.tryNext.1 = some m ∧ p.tryNext.2.queue.length < p.queue.length := by
  generalize hqueue : p.queue = queue
  induction queue generalizing p with
  | nil => exact .inl (by simp [tryNext_of_nil hqueue, hqueue])
  | cons m rest ih =>
    rw [tryNext_of_cons hqueue]
    cases happlies : p.coordinator.applies m with
    | true =>
      rw [receive_of_applies hqueue happlies]
      exact .inr ⟨m, rfl, Nat.lt_succ_self rest.length⟩
    | false =>
      rw [receive_of_not_applies hqueue happlies]
      have hrest := ih { p with coordinator := (p.coordinator.accept m).2, queue := rest } rfl
      rcases hrest with hnone | ⟨n, hsome, hlt⟩
      · exact .inl hnone
      · exact .inr ⟨n, hsome, Nat.lt_succ_of_lt hlt⟩

/-- If no message is waiting, the queue is empty once this has been found out. -/
theorem queue_tryNext_of_none (p : Poller) (h : p.tryNext.1 = none) : p.tryNext.2.queue = [] := by
  rcases p.tryNext_cases with ⟨-, hempty⟩ | ⟨m, hsome, -⟩
  · exact hempty
  · rw [hsome] at h
    cases h

/-- The owner takes no more messages once none is waiting. -/
theorem takeUpTo_of_none (h : p.tryNext.1 = none) (count : Nat) :
    takeUpTo (count + 1) p = ([], p.tryNext.2) := by
  rcases hnext : p.tryNext with ⟨_ | m, q⟩
  · rw [takeUpTo, hnext]
  · rw [hnext] at h
    cases h

/-- The owner takes a message that is waiting, and the others after it. -/
theorem takeUpTo_of_some (h : p.tryNext.1 = some m) (count : Nat) :
    takeUpTo (count + 1) p =
      (m :: (takeUpTo count p.tryNext.2).1, (takeUpTo count p.tryNext.2).2) := by
  rcases hnext : p.tryNext with ⟨_ | n, q⟩ <;> rw [hnext] at h <;> cases h
  rw [takeUpTo, hnext]

/-- As many turns as there are messages empty the queue: every turn that gets a message shortens
it, and one that gets none finds it empty. -/
theorem queue_takeUpTo {count : Nat} (hcount : p.queue.length ≤ count) :
    (takeUpTo count p).2.queue = [] := by
  induction count generalizing p with
  | zero => exact List.length_eq_zero_iff.mp (Nat.le_zero.mp hcount)
  | succ count ih =>
    rcases p.tryNext_cases with ⟨hnone, hempty⟩ | ⟨m, hsome, hlt⟩
    · rw [takeUpTo_of_none hnone]
      exact hempty
    · rw [takeUpTo_of_some hsome]
      exact ih (by omega)

/-- Draining leaves an empty queue. -/
theorem queue_drain (p : Poller) : p.drain.2.queue = [] :=
  queue_takeUpTo (Nat.le_refl p.queue.length)

/-- What taking one message keeps, draining keeps, together with all messages that are got. -/
theorem drain_induction {motive : List Message → Poller → Prop}
    (hnext : ∀ got p, motive got p → motive (got ++ p.tryNext.1.toList) p.tryNext.2)
    (got : List Message) (h : motive got p) : motive (got ++ p.drain.1) p.drain.2 := by
  unfold drain
  generalize p.queue.length = count
  induction count generalizing p got with
  | zero => simpa [takeUpTo] using h
  | succ count ih =>
    have hafter := hnext got p h
    rcases p.tryNext_cases with ⟨hnone, -⟩ | ⟨m, hsome, -⟩
    · rw [takeUpTo_of_none hnone]
      rwa [hnone] at hafter
    · rw [takeUpTo_of_some hsome]
      rw [hsome] at hafter
      simpa using ih (got ++ [m]) hafter

/-- The owner leaves the workers alone when it takes a turn. -/
theorem workers_receive (p : Poller) : p.receive.2.workers = p.workers := by
  cases hqueue : p.queue with
  | nil => simp [receive, hqueue]
  | cons m rest =>
    cases happlies : p.coordinator.applies m with
    | true => rw [receive_of_applies hqueue happlies]
    | false => rw [receive_of_not_applies hqueue happlies]

theorem workers_tryNext (p : Poller) : p.tryNext.2.workers = p.workers :=
  tryNext_induction (motive := fun q => q.workers = p.workers)
    (fun q hq => q.workers_receive.trans hq) rfl

theorem workers_drain (p : Poller) : p.drain.2.workers = p.workers :=
  drain_induction (motive := fun _ q => q.workers = p.workers)
    (fun _ q hq => q.workers_tryNext.trans hq) [] rfl

/-- Telling the active worker to stop leaves what the workers have to deliver. -/
theorem haltActive_spec (p : Poller) :
    p.haltActive.coordinator = p.coordinator ∧ p.haltActive.queue = p.queue ∧
      p.haltActive.workers.length = p.workers.length ∧
      ∀ (j : Nat) (w : Worker), p.haltActive.workers[j]? = some w →
        ∃ old : Worker, p.workers[j]? = some old ∧
          w.token = old.token ∧ w.request = old.request := by
  unfold haltActive
  split
  · exact ⟨rfl, rfl, rfl, fun j w hw => ⟨w, hw, rfl, rfl⟩⟩
  · refine ⟨rfl, rfl, List.length_modify .., fun j w hw => ?_⟩
    simp only [List.getElem?_modify, Option.map_eq_map, Option.map_eq_some_iff] at hw
    obtain ⟨old, hold, rfl⟩ := hw
    refine ⟨old, hold, ?_⟩
    split <;> exact ⟨rfl, rfl⟩

end Poller

/-- The state of a poller agrees with what its owner has seen. -/
structure Tracks (updates : Token → List Update) (p : Poller) (h : List Entry) : Prop where
  /-- The coordinator stands for what the owner has seen. -/
  reflects : Reflects p.coordinator h
  /-- The owner got messages of current chains only. -/
  orderly : Orderly p.coordinator.lastToken h
  /-- There is a worker for every chain started. -/
  counted : p.coordinator.lastToken = p.workers.length
  /-- The workers stand in the order of their chains. -/
  numbered : ∀ (i : Nat) (w : Worker), p.workers[i]? = some w → w.token = ⟨i + 1⟩
  /-- Every message comes from a chain that was started. -/
  sent : ∀ m ∈ appliedIn h ++ p.queue,
    0 < m.token.number ∧ m.token.number ≤ p.workers.length
  /-- The messages of every worker come in order, and those of the current chain all do. -/
  on_course : ∀ w ∈ p.workers, OnCourse updates h p.queue w

namespace Tracks

variable {updates : Token → List Update} {p : Poller} {h : List Entry}

theorem new (updates : Token → List Update) : Tracks updates .new [] where
  reflects := Reflects.new _
  orderly := Orderly.nil
  counted := rfl
  numbered := nofun
  sent := nofun
  on_course := nofun

/-- The chains are numbered from one to the number of workers. -/
theorem number_le (ht : Tracks updates p h) {w : Worker} (hw : w ∈ p.workers) :
    0 < w.token.number ∧ w.token.number ≤ p.workers.length := by
  obtain ⟨i, hi⟩ := List.mem_iff_getElem?.1 hw
  obtain ⟨hlt, -⟩ := List.getElem?_eq_some_iff.1 hi
  rw [ht.numbered i w hi]
  exact ⟨Nat.succ_pos i, hlt⟩

/-- Every message comes from a worker. -/
theorem exists_worker (ht : Tracks updates p h) {m : Message} (hm : m ∈ appliedIn h ++ p.queue) :
    ∃ w ∈ p.workers, w.token = m.token := by
  obtain ⟨hpos, hle⟩ := ht.sent m hm
  have hlt : m.token.number - 1 < p.workers.length := by omega
  refine ⟨p.workers[m.token.number - 1], List.getElem_mem hlt, ?_⟩
  rw [ht.numbered _ _ (List.getElem?_eq_getElem hlt), Nat.sub_add_cancel hpos]

/-- The worker of the current chain is the one whose chain is live, if there is one. -/
theorem token_eq (ht : Tracks updates p h) {t u : Token} (hlatest : Latest h t)
    (hlive : Live h u) : t = u :=
  ((ht.reflects.latest_iff t).1 hlatest).1.symm.trans
    ((ht.reflects.latest_iff u).1 hlive.latest).1

/-- Telling the active worker to stop keeps the numbers of the workers and what they sent. -/
theorem haltActive (ht : Tracks updates p h) :
    (∀ (i : Nat) (w : Worker), p.haltActive.workers[i]? = some w → w.token = ⟨i + 1⟩) ∧
      ∀ w ∈ p.haltActive.workers, w.token.number ≤ p.workers.length ∧
        ofChain w.token (appliedIn h) <+: w.messages updates := by
  obtain ⟨-, -, -, hworkers⟩ := p.haltActive_spec
  refine ⟨fun i w hw => ?_, fun w hw => ?_⟩
  · obtain ⟨old, hold, htoken, -⟩ := hworkers i w hw
    exact htoken.trans (ht.numbered i old hold)
  · obtain ⟨i, hi⟩ := List.mem_iff_getElem?.1 hw
    obtain ⟨old, hold, htoken, hrequest⟩ := hworkers i w hi
    have hmem := List.mem_of_getElem? hold
    have hmessages : w.messages updates = old.messages updates := by
      simp only [Worker.messages, htoken, hrequest]
    rw [htoken, hmessages]
    exact ⟨(ht.number_le hmem).2, (ht.on_course old hmem).in_order⟩

/-- A stop leaves no chain current, so that nothing is required of what its worker still does. -/
theorem stop (ht : Tracks updates p h) : Tracks updates p.stop (h ++ [.stopped]) := by
  obtain ⟨hcoordinator, hqueue, hlength, -⟩ := p.haltActive_spec
  obtain ⟨hnumbered, hworkers⟩ := ht.haltActive
  have happlied : appliedIn (h ++ [.stopped]) = appliedIn h := appliedIn_concat_of_none rfl
  have hstop : p.stop.coordinator = p.coordinator.stop := congrArg Coordinator.stop hcoordinator
  refine ⟨?_, ?_, ?_, hnumbered, ?_, fun w hw => ?_⟩
  · rw [hstop]
    exact ht.reflects.stop
  · rw [hstop]
    exact ht.orderly.pass rfl (Nat.le_refl _) fun t hlive => (not_live_concat_stopped hlive).elim
  · rw [hstop]
    exact ht.counted.trans hlength.symm
  · change ∀ m ∈ appliedIn (h ++ [.stopped]) ++ p.haltActive.queue,
      0 < m.token.number ∧ m.token.number ≤ p.haltActive.workers.length
    rw [happlied, hqueue, hlength]
    exact ht.sent
  · refine OnCourse.of_not_latest ?_ not_latest_concat_stopped
    rw [happlied]
    exact (hworkers w hw).2

/-- A start makes a new chain current, which has delivered nothing, and lets go of the others. -/
theorem start (ht : Tracks updates p h) (request : RunRequest) :
    Tracks updates (p.start request).2 (h ++ [.started (p.start request).1]) := by
  obtain ⟨hcoordinator, hqueue, hlength, -⟩ := p.haltActive_spec
  obtain ⟨hnumbered, hworkers⟩ := ht.haltActive
  have htoken : (p.start request).1 = p.coordinator.nextToken :=
    congrArg Coordinator.nextToken hcoordinator
  have hstart : (p.start request).2.coordinator = p.coordinator.start :=
    congrArg Coordinator.start hcoordinator
  have hnew : (p.start request).2.workers =
      p.haltActive.workers ++ [⟨p.coordinator.nextToken, request, 0, false, false⟩] := by
    rw [← htoken]
    rfl
  have hsame : (p.start request).2.queue = p.queue := hqueue
  have hnext : p.coordinator.nextToken = ⟨p.workers.length + 1⟩ := by
    rw [Coordinator.nextToken, ht.counted]
  have happlied : appliedIn (h ++ [.started p.coordinator.nextToken]) = appliedIn h :=
    appliedIn_concat_of_none rfl
  rw [htoken]
  refine ⟨?_, ?_, ?_, fun i w hw => ?_, fun m hm => ?_, fun w hw => ?_⟩
  · rw [hstart]
    exact ht.reflects.start
  · rw [hstart]
    refine ht.orderly.pass rfl (Nat.le_succ _) fun t hlive => Or.inr ?_
    rw [← live_concat_started.1 hlive]
    exact Nat.lt_succ_self _
  · rw [hstart, hnew, List.length_append, hlength, ← ht.counted]
    rfl
  · rw [hnew, List.getElem?_append] at hw
    split at hw
    · exact hnumbered i w hw
    · obtain ⟨hi, rfl⟩ := List.getElem?_eq_some_iff.1 hw
      have hzero : i - p.haltActive.workers.length = 0 := by simpa using hi
      have hlast : i = p.workers.length := by omega
      simp [hnext, hlast]
  · rw [happlied, hsame] at hm
    obtain ⟨hpos, hle⟩ := ht.sent m hm
    refine ⟨hpos, ?_⟩
    rw [hnew, List.length_append, hlength]
    exact Nat.le_succ_of_le hle
  · rw [hsame]
    have hnever : ∀ m ∈ appliedIn h ++ p.queue, m.token ≠ p.coordinator.nextToken := by
      intro m hm heq
      have hle := (ht.sent m hm).2
      rw [heq, hnext] at hle
      exact Nat.not_succ_le_self _ hle
    rw [hnew, List.mem_append, List.mem_singleton] at hw
    rcases hw with hw | rfl
    · obtain ⟨hle, horder⟩ := hworkers w hw
      refine OnCourse.of_not_latest (by rwa [happlied]) fun hlatest => ?_
      rw [← latest_concat_started.1 hlatest, hnext] at hle
      exact Nat.not_succ_le_self _ hle
    · refine OnCourse.fresh ?_ (fun m hm => hnever m (List.mem_append_right _ hm))
        (live_concat_started.2 rfl)
      rw [happlied]
      exact fun m hm => hnever m (List.mem_append_left _ hm)

/-- A worker may change, and the queue, as long as every worker stays on its course. -/
theorem modify (ht : Tracks updates p h) {i : Nat} {f : Worker → Worker} {queue : List Message}
    (hf : ∀ w, (f w).token = w.token)
    (hsent : ∀ m ∈ queue, 0 < m.token.number ∧ m.token.number ≤ p.workers.length)
    (hcourse : ∀ (j : Nat) (w : Worker), p.workers[j]? = some w →
      OnCourse updates h queue (if i = j then f w else w)) :
    Tracks updates { p with workers := p.workers.modify i f, queue := queue } h := by
  refine ⟨ht.reflects, ht.orderly, ht.counted.trans (List.length_modify ..).symm,
    fun j w hw => ?_, fun m hm => ?_, fun w hw => ?_⟩
  · simp only [List.getElem?_modify, Option.map_eq_map, Option.map_eq_some_iff] at hw
    obtain ⟨old, hold, rfl⟩ := hw
    have htoken := ht.numbered j old hold
    split
    · exact (hf old).trans htoken
    · exact htoken
  · simp only [List.length_modify]
    rcases List.mem_append.1 hm with hm | hm
    · exact ht.sent m (List.mem_append_left _ hm)
    · exact hsent m hm
  · obtain ⟨j, hj⟩ := List.mem_iff_getElem?.1 hw
    simp only [List.getElem?_modify, Option.map_eq_map, Option.map_eq_some_iff] at hj
    obtain ⟨old, hold, rfl⟩ := hj
    exact hcourse j old hold

/-- A worker puts its next message behind all others, so its own stay in order. -/
theorem work (ht : Tracks updates p h) (i : Nat) : Tracks updates (p.work updates i) h := by
  unfold Poller.work
  split
  · exact ht
  next w hw =>
  split
  · exact ht
  split
  · exact ht
  next u hnext =>
  have hmem := List.mem_of_getElem? hw
  refine ht.modify (fun _ => rfl) (fun m hm => ?_) (fun j v hv => ?_)
  · rcases List.mem_append.1 hm with hm | hm
    · exact ht.sent m (List.mem_append_right _ hm)
    · rw [List.mem_singleton.1 hm]
      exact ht.number_le hmem
  · have hcourse := ht.on_course v (List.mem_of_getElem? hv)
    by_cases hij : i = j
    · subst hij
      obtain rfl : w = v := Option.some.inj (hw.symm.trans hv)
      rw [if_pos rfl]
      exact hcourse.put_own hnext
    · rw [if_neg hij]
      refine hcourse.put_other fun heq => hij ?_
      rw [ht.numbered i w hw, ht.numbered j v hv] at heq
      simpa using heq

/-- A worker that notices a stop changes nothing that the owner sees. -/
theorem notice (ht : Tracks updates p h) (i : Nat) : Tracks updates (p.notice i) h := by
  refine ht.modify (fun _ => rfl) (fun m hm => ht.sent m (List.mem_append_right _ hm))
    (fun j w hw => ?_)
  have hcourse := ht.on_course w (List.mem_of_getElem? hw)
  split
  · exact hcourse.notice
  · exact hcourse

section terminal

variable (hterminal : ∀ t, (updates t).Pairwise fun u _ => u.isTerminal = false)
include hterminal

/-- The oldest message is got if its chain is live and discarded otherwise. -/
theorem receive (ht : Tracks updates p h) :
    Tracks updates p.receive.2 (h ++ p.receive.1.toList.map .applied) := by
  cases hqueue : p.queue with
  | nil => simpa [Poller.receive, hqueue] using ht
  | cons m rest =>
    have hcourse : ∀ w ∈ p.workers, OnCourse updates h (m :: rest) w := hqueue ▸ ht.on_course
    have hlast : (p.coordinator.accept m).2.lastToken = p.coordinator.lastToken :=
      p.coordinator.lastToken_accept m
    cases happlies : p.coordinator.applies m with
    | true =>
      have hlive : Live h m.token := ht.reflects.applies_iff_live.1 happlies
      rw [Poller.receive_of_applies hqueue happlies]
      refine ⟨ht.reflects.applied happlies, ?_, hlast.trans ht.counted, ht.numbered,
        fun n hn => ?_, fun w hw => ?_⟩
      · exact hlast ▸ ht.orderly.applied hlive (ht.reflects.newest _ hlive.latest)
      · refine ht.sent n ?_
        simpa [hqueue, appliedIn_concat_applied] using hn
      · exact (hcourse w hw).applied hlive fun hlatest => ht.token_eq hlatest hlive
    | false =>
      have hnot : ¬ Live h m.token := by
        rw [← ht.reflects.applies_iff_live, happlies]
        exact Bool.false_ne_true
      rw [Poller.receive_of_not_applies hqueue happlies]
      simp only [Option.toList_none, List.map_nil, List.append_nil]
      refine ⟨ht.reflects.discarded happlies, hlast ▸ ht.orderly, hlast.trans ht.counted,
        ht.numbered, fun n hn => ?_, fun w hw => ?_⟩
      · refine ht.sent n ?_
        rw [hqueue]
        rcases List.mem_append.1 hn with hn | hn
        · exact List.mem_append_left _ hn
        · exact List.mem_append_right _ (List.mem_cons_of_mem m hn)
      · exact (hcourse w hw).discarded (hterminal w.token) hnot

/-- Taking a message keeps the agreement, turn by turn. -/
theorem tryNext (ht : Tracks updates p h) :
    Tracks updates p.tryNext.2 (h ++ p.tryNext.1.toList.map .applied) := by
  -- Every turn takes one message out of the queue.
  generalize hqueue : p.queue = queue
  induction queue generalizing p with
  | nil => simpa [Poller.tryNext_of_nil hqueue] using ht
  | cons m rest ih =>
    have hturn := ht.receive hterminal
    rw [Poller.tryNext_of_cons hqueue]
    cases happlies : p.coordinator.applies m with
    | true => exact hturn
    | false =>
      rw [Poller.receive_of_not_applies hqueue happlies] at hturn ⊢
      exact ih (by simpa using hturn) rfl

/-- Draining the queue keeps the agreement. -/
theorem drain (ht : Tracks updates p h) :
    Tracks updates p.drain.2 (h ++ p.drain.1.map .applied) := by
  have hstart : Tracks updates p (h ++ ([] : List Message).map .applied) := by simpa using ht
  have hnext : ∀ got q, Tracks updates q (h ++ got.map .applied) →
      Tracks updates q.tryNext.2 (h ++ (got ++ q.tryNext.1.toList).map .applied) := by
    intro got q hq
    simpa using hq.tryNext hterminal
  exact Poller.drain_induction (motive := fun got q => Tracks updates q (h ++ got.map .applied))
    hnext [] hstart

/-- Every action of the owner or a worker keeps the agreement. -/
theorem step (ht : Tracks updates p h) (a : Poller.Action) :
    Tracks updates (p.step updates a).2 (h ++ p.seen a) := by
  cases a with
  | start request => exact ht.start request
  | stop => exact ht.stop
  | receive => exact ht.receive hterminal
  | tryNext => exact ht.tryNext hterminal
  | work i => simpa [Poller.seen, Poller.step] using ht.work i
  | notice i => simpa [Poller.seen, Poller.step] using ht.notice i

/-- Any actions keep the agreement. -/
theorem run (ht : Tracks updates p h) (actions : List Poller.Action) :
    Tracks updates (p.after updates actions) (h ++ p.log updates actions) := by
  induction actions generalizing p h with
  | nil => simpa [Poller.log, Poller.after, Poller.run] using ht
  | cons a actions ih =>
    simpa [Poller.log, Poller.after, Poller.run] using ih (ht.step hterminal a)

end terminal

end Tracks

/-! ## What the owner gets -/

/-- The messages that the owner sees are those that it gets. -/
theorem Poller.appliedIn_log (updates : Token → List Update) (p : Poller)
    (actions : List Poller.Action) :
    appliedIn (p.log updates actions) = (p.run updates actions).1 := by
  have happlied : ∀ got : Option Message, appliedIn (got.toList.map .applied) = got.toList := by
    intro got
    cases got <;> rfl
  induction actions generalizing p with
  | nil => rfl
  | cons a actions ih =>
    have hseen : appliedIn (p.seen a) = (p.step updates a).1.toList := by
      cases a with
      | receive | tryNext => exact happlied _
      | start | stop | work | notice => rfl
    simp only [Poller.log, Poller.run, ← ih, ← hseen]
    exact List.filterMap_append ..

/-- What the owner of a poller has got, given what it has seen: messages of current chains only,
in order, and everything that the last chain delivered. -/
structure DeliversCurrent (updates : Token → List Update) (p : Poller) (h : List Entry)
    (got : List Message) : Prop where
  /-- The owner has seen what it got. -/
  seen : appliedIn h = got
  /-- Every message is of a chain that was started. -/
  sent : ∀ m ∈ got, ∃ w ∈ p.workers, w.token = m.token
  /-- The tokens never decrease. -/
  ordered : got.Pairwise fun m n => m.token.number ≤ n.token.number
  /-- The messages of a chain are the first ones that its worker has to deliver, in order. -/
  in_order : ∀ w ∈ p.workers, ofChain w.token got <+: w.messages updates
  /-- A message is got after its chain was started and before the next start or stop. -/
  while_live : ∀ before m after, h = before ++ .applied m :: after → Live before m.token
  /-- The last update of a chain is got once, and nothing of the chain is got after it. -/
  terminal_last : got.Pairwise fun m n => m.token = n.token → m.update.isTerminal = false
  /-- When the worker of the chain started last, which was not stopped, has ended and the queue is
  empty, then the owner has got all that the worker had to deliver. -/
  complete : ∀ w ∈ p.workers, Latest h w.token →
    (w.gone = true ∨ w.delivered = (updates w.token).length) → p.queue = [] →
    ofChain w.token got = w.messages updates
  /-- Only an empty queue is left when no message is waiting. -/
  exhausted : p.tryNext.1 = none → p.tryNext.2.queue = []
  /-- Draining the queue empties it, and once the worker of the chain started last has ended, the
  owner has got after it all that the worker had to deliver. -/
  drained : p.drain.2.queue = [] ∧ ∀ w ∈ p.workers, Latest h w.token →
    (w.gone = true ∨ w.delivered = (updates w.token).length) →
    ofChain w.token (got ++ p.drain.1) = w.messages updates

section agreement

variable {updates : Token → List Update} {p : Poller} {h : List Entry} {w : Worker}

/-- Nothing of the current chain is lost: once its worker has ended, all that it had to deliver was
got or waits in the queue. -/
theorem Tracks.got_of_ended (ht : Tracks updates p h) (hw : w ∈ p.workers)
    (hlatest : Latest h w.token)
    (hended : w.gone = true ∨ w.delivered = (updates w.token).length) :
    ofChain w.token (appliedIn h) ++ ofChain w.token p.queue = w.messages updates := by
  have hcourse := ht.on_course w hw
  have hdelivered : w.delivered = (updates w.token).length := by
    refine hended.resolve_left fun hgone => ?_
    rw [(hcourse.unhalted hlatest).2] at hgone
    cases hgone
  rw [hcourse.conserved hlatest, hdelivered, List.take_of_length_le (by simp [Worker.messages])]

/-- An owner whose view agrees with the state of the poller got what it should. -/
theorem Tracks.deliversCurrent (ht : Tracks updates p h)
    (hterminal : ∀ t, (updates t).Pairwise fun u _ => u.isTerminal = false) :
    DeliversCurrent updates p h (appliedIn h) where
  seen := rfl
  sent m hm := ht.exists_worker (List.mem_append_left _ hm)
  ordered := ht.orderly.ordered
  in_order w hw := (ht.on_course w hw).in_order
  while_live := ht.orderly.while_live
  terminal_last := ht.orderly.terminal_last
  complete w hw hlatest hended hqueue := by
    have hall := ht.got_of_ended hw hlatest hended
    rw [hqueue] at hall
    simpa [ofChain] using hall
  exhausted := p.queue_tryNext_of_none
  drained := by
    refine ⟨p.queue_drain, fun w hw hlatest hended => ?_⟩
    have hall := (ht.drain hterminal).got_of_ended (p.workers_drain ▸ hw)
      (latest_append_applied.2 hlatest) hended
    rw [p.queue_drain, appliedIn_append_applied] at hall
    simpa [ofChain] using hall

end agreement

/-- What the chain of each token delivers if it is never stopped, in any number of rounds and with
any answers of its backend. -/
def chainUpdates {σ : Type} (policy : RetryPolicy) (call : Token → σ → Except ApiError Json × σ)
    (rounds : Token → Nat) (state : Token → σ) (t : Token) : List Update :=
  (runWorker policy (call t) (rounds t) (.new t) .never (state t)).updates

/-- Nothing follows the last update of a chain. -/
theorem chainUpdates_terminal_last {σ : Type} (policy : RetryPolicy)
    (call : Token → σ → Except ApiError Json × σ) (rounds : Token → Nat) (state : Token → σ)
    (t : Token) :
    (chainUpdates policy call rounds state t).Pairwise fun u _ => u.isTerminal = false :=
  updates_terminal_last policy (call t) (rounds t) (.new t) .never (state t)

/-- A stop signal does no more to the updates of a chain than to cut them short.  And whatever the
backend answers to each chain, however the actions of the owner interleave with those of the
workers, and whenever a worker notices that it was told to stop, the owner gets the updates of the
current chain, all of them and no others. -/
theorem Poller.run_delivers_current {σ : Type} (policy : RetryPolicy)
    (call : Token → σ → Except ApiError Json × σ) (rounds : Token → Nat) (state : Token → σ)
    (actions : List Poller.Action) :
    (∀ t signal, (runWorker policy (call t) (rounds t) (.new t) signal (state t)).updates <+:
        chainUpdates policy call rounds state t) ∧
      DeliversCurrent (chainUpdates policy call rounds state)
        (Poller.new.after (chainUpdates policy call rounds state) actions)
        (Poller.new.log (chainUpdates policy call rounds state) actions)
        (Poller.new.run (chainUpdates policy call rounds state) actions).1 := by
  refine ⟨fun t signal => ?_, ?_⟩
  · exact updates_prefix_of_never policy (call t) (Nat.le_refl _) (.new t) signal (state t)
  · rw [← Poller.appliedIn_log]
    have hterminal := chainUpdates_terminal_last policy call rounds state
    refine Tracks.deliversCurrent ?_ hterminal
    simpa using (Tracks.new _).run hterminal actions

/-- What the first chain delivers after the second one was started waits in the queue before what
the second one delivers, and is discarded. -/
example :
    let request : RunRequest := ⟨[], false, "beam", "", ""⟩
    (Poller.new.run (fun _ => [.completed .null])
        [.start request, .start request, .work 0, .work 1, .tryNext]).1 =
      [⟨⟨2⟩, "beam", .completed .null⟩] := by
  rfl

end Poll
end PanelForms

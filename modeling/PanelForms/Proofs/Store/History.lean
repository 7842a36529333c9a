import PanelForms.Proofs.Session.Change

/-!
# The history of a store

A commit is refused by comparing revisions, and reports and panels follow a store by what it
announces.  Both rest on what this module shows: whatever is done to a store, an equal revision
means an equal record, and a subscriber that is still held has been told of every replacement
since it subscribed.

Main definitions:

- `StoreOp`, `ModelStore.run`: what may be done to a store, and the store after it.
- `ModelStore.changes`: the replacements of a run with the revisions that they returned.
- `ModelStore.received`: what a subscriber has taken out of its queue during a run.

Main results:

- Theorem `ModelStore.get?_models_run`, `ModelStore.lastStamp_lt_revision_run`: a run keeps a model
  that it does not replace, and stamps any other one anew.
- Theorem `ModelStore.waiting?_run`: nothing that is announced is lost, repeated or reordered.
- Theorem `ModelStore.history_identifies`: what revisions and announcements tell after any run.
-/

namespace PanelForms

/-- What may be done to a store: a record is replaced, or its subscriptions are attended to. -/
inductive StoreOp where
  | update (model : String) (record : ModelRecord)
  | attend (op : SubscriptionOp)

/-- The operation replaces the record of a model. -/
def StoreOp.Replaces (model : String) (op : StoreOp) : Prop :=
  ∃ record, op = .update model record

namespace Subscription

/-- What becomes of a subscription when a change is sent to it: it gets the change, or it is found
to have been given up and is left out from then on. -/
def sent? (change : ModelChange) (s : Subscription) : Option Subscription :=
  if s.held then some (s.announce change) else none

/-- An announcement neither takes up nor drops a subscription. -/
theorem held_announce (change : ModelChange) (s : Subscription) :
    (s.announce change).held = s.held := by
  unfold announce
  split <;> rfl

end Subscription

namespace ModelStore

/-- The store after an operation. -/
def perform (s : ModelStore) : StoreOp → ModelStore
  | .update model record => s.update model record
  | .attend op => s.attend op

/-- The store after several operations. -/
def run (s : ModelStore) (ops : List StoreOp) : ModelStore :=
  ops.foldl perform s

/-- The replacements among several operations, each with the revision that it returns. -/
def changes (s : ModelStore) : List StoreOp → List ModelChange
  | [] => []
  | .update model record :: ops =>
    ⟨model, s.nextRevision⟩ :: (s.update model record).changes ops
  | .attend op :: ops => (s.attend op).changes ops

/-- What an operation takes out of the queue of a subscriber. -/
def taken (s : ModelStore) (i : Nat) : StoreOp → List ModelChange
  | .attend (.receive j) => if j = i then (s.waiting? i).getD [] else []
  | _ => []

/-- What several operations take out of the queue of a subscriber. -/
def received (s : ModelStore) (i : Nat) : List StoreOp → List ModelChange
  | [] => []
  | op :: ops => s.taken i op ++ (s.perform op).received i ops

@[simp]
theorem run_nil (s : ModelStore) : s.run [] = s :=
  rfl

@[simp]
theorem run_cons (s : ModelStore) (op : StoreOp) (ops : List StoreOp) :
    s.run (op :: ops) = (s.perform op).run ops :=
  rfl

theorem run_append (s : ModelStore) (ops later : List StoreOp) :
    s.run (ops ++ later) = (s.run ops).run later :=
  List.foldl_append

variable {s : ModelStore} {model : String} {ops : List StoreOp} {i : Nat}

/-! ## Revisions -/

/-- No revision is greater than the last stamp. -/
def Stamped (s : ModelStore) : Prop :=
  ∀ model, (s.revision model).number ≤ s.lastStamp

theorem stamped_empty : empty.Stamped :=
  fun _ => Nat.le_refl 0

/-- No operation gives a model a revision that was not given out. -/
theorem Stamped.perform (h : s.Stamped) (op : StoreOp) : (s.perform op).Stamped := by
  intro other
  cases op with
  | update model record =>
    rw [ModelStore.perform, revision_update]
    split
    · exact Nat.le_refl _
    · exact Nat.le_succ_of_le (h other)
  | attend op => simpa [ModelStore.perform, revision] using h other

/-- No run gives a model a revision that was not given out. -/
theorem Stamped.run (h : s.Stamped) (ops : List StoreOp) : (s.run ops).Stamped := by
  induction ops generalizing s with
  | nil => exact h
  | cons op ops ih => exact ih (h.perform op)

/-- An operation keeps every model that it does not replace. -/
theorem get?_models_perform {op : StoreOp} (h : ¬ op.Replaces model) :
    (s.perform op).models.get? model = s.models.get? model := by
  cases op with
  | update name record =>
    have hne : name ≠ model := by
      rintro rfl
      exact h ⟨record, rfl⟩
    simp [perform, update, Dict.get?_insert, hne]
  | attend op => simp [perform]

/-- A run keeps every model that it does not replace. -/
theorem get?_models_run (h : ∀ op ∈ ops, ¬ op.Replaces model) :
    (s.run ops).models.get? model = s.models.get? model := by
  induction ops generalizing s with
  | nil => rfl
  | cons op ops ih =>
    rw [run_cons, ih fun o ho => h o (List.mem_cons_of_mem op ho)]
    exact get?_models_perform (h op List.mem_cons_self)

/-- Stamps are never taken back. -/
theorem lastStamp_le_perform (s : ModelStore) (op : StoreOp) :
    s.lastStamp ≤ (s.perform op).lastStamp := by
  cases op with
  | update model record => exact Nat.le_succ _
  | attend op => simp [perform]

/-- A model that a run replaces ends with a revision that no model had before. -/
theorem lastStamp_lt_revision_run (h : ∃ op ∈ ops, op.Replaces model) :
    s.lastStamp < ((s.run ops).revision model).number := by
  induction ops generalizing s with
  | nil => simp at h
  | cons op ops ih =>
    by_cases hlater : ∃ o ∈ ops, o.Replaces model
    · exact Nat.lt_of_le_of_lt (s.lastStamp_le_perform op) (ih hlater)
    · -- The model is replaced by the first operation and by none after it.
      obtain ⟨o, ho, hreplaces⟩ := h
      obtain rfl : o = op := by
        rcases List.mem_cons.1 ho with rfl | ho
        · rfl
        · exact (hlater ⟨o, ho, hreplaces⟩).elim
      obtain ⟨record, rfl⟩ := hreplaces
      have hkept : ((s.perform (.update model record)).run ops).models.get? model =
          (s.perform (.update model record)).models.get? model :=
        get?_models_run fun o ho hreplaces => hlater ⟨o, ho, hreplaces⟩
      rw [run_cons, revision, hkept]
      simp [perform, update, nextRevision]

/-- A model keeps its revision exactly if it is not replaced. -/
theorem revision_run_eq_iff (h : s.Stamped) :
    (s.run ops).revision model = s.revision model ↔ ∀ op ∈ ops, ¬ op.Replaces model := by
  constructor
  · intro hsame op hop hreplaces
    have hlt := lastStamp_lt_revision_run (s := s) ⟨op, hop, hreplaces⟩
    rw [hsame] at hlt
    exact Nat.not_lt_of_le (h model) hlt
  · intro hkept
    rw [revision, get?_models_run hkept]
    rfl

/-- A run that leaves a revision as it is leaves the record as it is. -/
theorem record?_run_of_revision_eq (h : s.Stamped)
    (hsame : (s.run ops).revision model = s.revision model) :
    (s.run ops).record? model = s.record? model := by
  rw [record?, get?_models_run ((revision_run_eq_iff h).1 hsame)]
  rfl

/-- Every revision that a run returns is greater than the last stamp before it. -/
theorem lastStamp_lt_of_mem_changes {c : ModelChange} (hc : c ∈ s.changes ops) :
    s.lastStamp < c.revision.number := by
  induction ops generalizing s with
  | nil => cases hc
  | cons op ops ih =>
    cases op with
    | update model record =>
      rcases List.mem_cons.1 hc with rfl | hc
      · exact Nat.lt_succ_self _
      · exact Nat.lt_of_succ_lt (ih hc)
    | attend op => simpa using ih hc

/-- Later changes have greater revisions. -/
theorem pairwise_changes (s : ModelStore) (ops : List StoreOp) :
    (s.changes ops).Pairwise fun c d => c.revision.number < d.revision.number := by
  induction ops generalizing s with
  | nil => exact List.Pairwise.nil
  | cons op ops ih =>
    cases op with
    | update model record =>
      exact List.pairwise_cons.2 ⟨fun d hd => lastStamp_lt_of_mem_changes hd, ih _⟩
    | attend op => exact ih _

/-! ## Announcements -/

/-- No operation takes a subscription out of the list. -/
theorem length_le_perform (s : ModelStore) (op : StoreOp) :
    s.subscriptions.length ≤ (s.perform op).subscriptions.length := by
  cases op with
  | update model record => simp [perform, update]
  | attend op => cases op <;> simp [perform, attend, subscribe, drop, receive]

/-- A new subscription waits for nothing yet. -/
theorem waiting?_subscribe_self (s : ModelStore) :
    s.subscribe.waiting? s.subscriptions.length = some [] := by
  simp [waiting?, subscribe]

/-- A new subscription leaves what waits for the others. -/
theorem waiting?_subscribe_of_lt (hi : i < s.subscriptions.length) :
    s.subscribe.waiting? i = s.waiting? i := by
  simp [waiting?, subscribe, List.getElem?_append_left hi]

/-- Dropping a subscription forgets what waits for it. -/
theorem waiting?_drop (s : ModelStore) (i j : Nat) :
    (s.drop j).waiting? i = if j = i then none else s.waiting? i := by
  unfold waiting? drop
  by_cases hj : j = i <;> cases hs : s.subscriptions[i]? <;> simp [hj, hs]

/-- Receiving takes all that waits for the subscription. -/
theorem waiting?_receive (s : ModelStore) (i j : Nat) :
    (s.receive j).waiting? i = (s.waiting? i).map fun waiting => if j = i then [] else waiting := by
  unfold waiting? receive
  cases hs : s.subscriptions[i]? with
  | none => simp [List.getElem?_modify, hs]
  | some sub =>
    by_cases hj : j = i <;> cases hheld : sub.held <;> simp [hj, hs, hheld]

/-- A subscription that has been given up never gets anything again. -/
theorem waiting?_run_eq_none (hi : i < s.subscriptions.length) (h : s.waiting? i = none) :
    (s.run ops).waiting? i = none := by
  induction ops generalizing s with
  | nil => exact h
  | cons op ops ih =>
    refine ih (Nat.lt_of_lt_of_le hi (s.length_le_perform op)) ?_
    cases op with
    | update model record => simp [perform, waiting?_update, h]
    | attend op =>
      cases op with
      | subscribe => exact (waiting?_subscribe_of_lt hi).trans h
      | drop j => simp [perform, attend, waiting?_drop, h]
      | receive j => simp [perform, attend, waiting?_receive, h]

/-- What one operation means for a subscription that it does not give up. -/
theorem waiting?_perform {op : StoreOp} {waiting : List ModelChange}
    (h : s.waiting? i = some waiting) (hop : op ≠ .attend (.drop i)) :
    ∃ next, (s.perform op).waiting? i = some next ∧
      s.taken i op ++ next = waiting ++ s.changes [op] := by
  cases op with
  | update model record =>
    exact ⟨waiting ++ [⟨model, s.nextRevision⟩], by simp [perform, waiting?_update, h], rfl⟩
  | attend op =>
    cases op with
    | subscribe =>
      have hi : i < s.subscriptions.length := by
        refine Nat.lt_of_not_le fun hge => ?_
        simp [waiting?, List.getElem?_eq_none hge] at h
      exact ⟨waiting, (waiting?_subscribe_of_lt hi).trans h, by simp [taken, changes]⟩
    | drop j =>
      have hj : j ≠ i := by
        rintro rfl
        exact hop rfl
      exact ⟨waiting, by simp [perform, attend, waiting?_drop, hj, h], by simp [taken, changes]⟩
    | receive j =>
      by_cases hj : j = i
      · exact ⟨[], by simp [perform, attend, waiting?_receive, hj, h],
          by simp [taken, changes, hj, h]⟩
      · exact ⟨waiting, by simp [perform, attend, waiting?_receive, hj, h],
          by simp [taken, changes, hj]⟩

theorem changes_cons (s : ModelStore) (op : StoreOp) (ops : List StoreOp) :
    s.changes (op :: ops) = s.changes [op] ++ (s.perform op).changes ops := by
  cases op <;> rfl

/-- What a subscriber has taken out of its queue over a run and what is in it at the end are what
was in it before, followed by the replacements of the run. -/
theorem waiting?_run {waiting : List ModelChange} (h : s.waiting? i = some waiting)
    (hops : .attend (.drop i) ∉ ops) :
    ∃ rest, (s.run ops).waiting? i = some rest ∧
      s.received i ops ++ rest = waiting ++ s.changes ops := by
  induction ops generalizing s waiting with
  | nil => exact ⟨waiting, h, by simp [received, changes]⟩
  | cons op ops ih =>
    have hop : op ≠ .attend (.drop i) := fun heq => hops (heq ▸ List.mem_cons_self)
    obtain ⟨next, hnext, htaken⟩ := waiting?_perform h hop
    obtain ⟨rest, hrest, hreceived⟩ := ih hnext fun hmem => hops (List.mem_cons_of_mem op hmem)
    refine ⟨rest, hrest, ?_⟩
    rw [received, changes_cons, List.append_assoc, hreceived, ← List.append_assoc, htaken,
      List.append_assoc]

/-- A run that gives a subscription up leaves nothing of it. -/
theorem waiting?_run_of_dropped (hi : i < s.subscriptions.length)
    (hops : .attend (.drop i) ∈ ops) : (s.run ops).waiting? i = none := by
  induction ops generalizing s with
  | nil => cases hops
  | cons op ops ih =>
    have hlater := Nat.lt_of_lt_of_le hi (s.length_le_perform op)
    rw [run_cons]
    rcases List.mem_cons.1 hops with rfl | hops
    · exact waiting?_run_eq_none hlater ((s.waiting?_drop i i).trans (if_pos rfl))
    · exact ih hlater hops

/-- A new subscription holds, as long as it is not given up, exactly the replacements since it was
made that have not been taken out of its queue. -/
theorem waiting?_run_subscribe_iff (s : ModelStore) (ops : List StoreOp)
    (waiting : List ModelChange) :
    (s.subscribe.run ops).waiting? s.subscriptions.length = some waiting ↔
      .attend (.drop s.subscriptions.length) ∉ ops ∧
        s.subscribe.received s.subscriptions.length ops ++ waiting = s.subscribe.changes ops := by
  have hlt : s.subscriptions.length < s.subscribe.subscriptions.length := by simp [subscribe]
  by_cases hops : .attend (.drop s.subscriptions.length) ∈ ops
  · simp [waiting?_run_of_dropped hlt hops, hops]
  · obtain ⟨rest, hrest, hreceived⟩ := waiting?_run s.waiting?_subscribe_self hops
    rw [hrest, ← List.nil_append (s.subscribe.changes ops), ← hreceived, List.append_cancel_left_eq]
    simp [hops, eq_comm]

/-- Subscriptions that have been given up may be left out before a change is sent, or be found out
while it is sent: the same ones are held afterwards, with the same announcements. -/
theorem filterMap_sent?_eq {kept : List Subscription}
    (hkept : kept.filter (·.held) = s.subscriptions.filter (·.held)) (record : ModelRecord) :
    kept.filterMap (·.sent? ⟨model, s.nextRevision⟩) =
      (s.update model record).subscriptions.filter (·.held) := by
  have hsent : ∀ subs : List Subscription, subs.filterMap (·.sent? ⟨model, s.nextRevision⟩) =
      (subs.filter (·.held)).map (·.announce ⟨model, s.nextRevision⟩) := by
    intro subs
    rw [← List.filterMap_eq_map, List.filterMap_filter]
    rfl
  have hheld : (fun sub : Subscription => sub.held) ∘
      (fun sub : Subscription => sub.announce ⟨model, s.nextRevision⟩) = fun sub => sub.held :=
    funext fun sub => sub.held_announce _
  rw [hsent, hkept, update, List.filter_map, hheld]

/-! ## What a history tells -/

/-- What the revisions and the announcements of a store tell after some operations on an empty
one. -/
structure Identifies (ops : List StoreOp) : Prop where
  /-- Every replacement returns a greater revision than all before it, of whatever model. -/
  increasing : (empty.changes ops).Pairwise fun c d => c.revision.number < d.revision.number
  /-- A model has no revision exactly if it was never stored. -/
  revision_eq_none_iff : ∀ model,
    (empty.run ops).revision model = .none ↔ ∀ op ∈ ops, ¬ op.Replaces model
  /-- If a model has one revision at two moments, then it has one record. -/
  same_record : ∀ earlier later model, ops = earlier ++ later →
    (empty.run ops).revision model = (empty.run earlier).revision model →
      (empty.run ops).record? model = (empty.run earlier).record? model
  /-- The next replacement will stamp its model, with the revision that it returns, and leave every
  other model alone. -/
  replaces_one : ∀ model record other,
    ((empty.run ops).update model record).revision other =
        (if model = other then (empty.run ops).nextRevision else (empty.run ops).revision other) ∧
      ((empty.run ops).update model record).record? other =
        if model = other then some record else (empty.run ops).record? other
  /-- Every subscription that has not been given up was sent all replacements since it was made,
  each one once and in order, and no others; it keeps what was not taken out of its queue. -/
  announced : ∀ earlier later waiting, ops = earlier ++ .attend .subscribe :: later →
    let subscriber := (empty.run earlier).subscriptions.length
    (empty.run ops).waiting? subscriber = some waiting ↔
      .attend (.drop subscriber) ∉ later ∧
        (empty.run earlier).subscribe.received subscriber later ++ waiting =
          (empty.run earlier).subscribe.changes later
  /-- Those given up need not be kept: it makes no difference if some of them, or all, are left out
  while a change is sent. -/
  prunes : ∀ (kept : List Subscription) model record,
    kept.filter (·.held) = (empty.run ops).subscriptions.filter (·.held) →
      kept.filterMap (·.sent? ⟨model, (empty.run ops).nextRevision⟩) =
        ((empty.run ops).update model record).subscriptions.filter (·.held)

/-- Whatever is done to a store, its revisions identify the versions of its models, and its
announcements are complete. -/
theorem history_identifies (ops : List StoreOp) : Identifies ops where
  increasing := pairwise_changes empty ops
  revision_eq_none_iff _ := revision_run_eq_iff stamped_empty
  same_record := by
    rintro earlier later model rfl hsame
    rw [run_append] at hsame ⊢
    exact record?_run_of_revision_eq (stamped_empty.run earlier) hsame
  replaces_one model record other :=
    ⟨revision_update _ model other record, record?_update _ model other record⟩
  announced := by
    rintro earlier later waiting rfl
    rw [run_append]
    exact waiting?_run_subscribe_iff _ later waiting
  prunes _ _ record hkept := filterMap_sent?_eq hkept record

/-- The second subscriber is given up between two replacements; the first one, which has taken the
first change out of its queue, still gets the second one. -/
example :
    (empty.run [.attend .subscribe, .attend .subscribe, .update "beam" Dict.empty,
        .attend (.receive 0), .attend (.drop 1), .update "grid" Dict.empty]).waiting? 0 =
      some [⟨"grid", ⟨2⟩⟩] := by
  decide

end ModelStore
end PanelForms

import PanelForms.Proofs.Report.Run
import PanelForms.Proofs.Session.Seeding

/-!
# When a report starts again

A report remembers the values that its chain was started for and compares them with the current
ones.  So it starts a new chain exactly if none was started since the last stop or the values have
changed since they were looked at last; an observation that fails does not count.  Only records
that are written can change the values: a form may be edited and reset at will.

Main definitions:

- `PanelOp.leavesRecords`: the steps that write no record.
- `Report.Due`: the observation of a session has to start a chain.
- `Report.RestartsWhenDue`: what a report owes at any moment of a run.

Main results:

- Theorem `Panels.models_run`: steps that write no record leave all records.
- Theorem `Report.restarts_when_due`: a report starts a chain exactly if one is due.
-/

namespace PanelForms

/-! ## Steps that write no record -/

namespace Form

theorem store_bindField (f : Form) (s : Session) (field : ResolvedField) :
    (f.bindField s field).session.store = s.store := by
  unfold bindField
  split
  · rfl
  split
  · rfl
  split
  · rfl
  exact store_seedField s field

theorem store_bind (f : Form) (s : Session) (text : String) :
    (f.bind s text).session.store = s.store := by
  unfold bind
  split
  · rfl
  · exact store_bindField f s _

theorem store_edit (f : Form) (s : Session) (r : FieldRef) (value : Json) :
    (f.edit s r value).session.store = s.store := by
  unfold edit
  split
  · rfl
  split <;> rfl

theorem store_setActive (f : Form) (s : Session) (r : FieldRef) (active : Bool) :
    (f.setActive s r active).session.store = s.store := by
  unfold setActive
  split
  · rfl
  split <;> rfl

theorem store_cancel (f : Form) (s : Session) : (f.cancel s).session.store = s.store := by
  unfold cancel
  split
  · rfl
  · exact Session.store_foldl_reseedModel _ s

/-- Only a commit writes records. -/
theorem store_perform (f : Form) (s : Session) {op : FormOp} (h : op ≠ .submit) :
    (f.perform s op).2.store = s.store := by
  cases op with
  | bind text => exact store_bind f s text
  | bindField field => exact store_bindField f s field
  | edit r value => exact store_edit f s r value
  | setActive r active => exact store_setActive f s r active
  | submit => exact (h rfl).elim
  | cancel => exact store_cancel f s

end Form

/-- The step writes no record: it neither commits nor replaces one. -/
def PanelOp.leavesRecords : PanelOp → Bool
  | .form _ .submit => false
  | .form _ _ => true
  | .admin .initializeForms | .admin (.attend _) => true
  | .admin _ => false

namespace Panels

/-- A step that leaves the records alone keeps all of them. -/
theorem models_step (p : Panels) {op : PanelOp} (h : op.leavesRecords = true) :
    (p.step op).session.store.models = p.session.store.models := by
  cases op with
  | admin op =>
    cases op with
    | initializeForms => exact congrArg ModelStore.models p.session.store_initializeForms
    | attend sub => exact ModelStore.models_attend p.session.store sub
    | replaceModel | loadModels | fillMissingDefaults => cases h
  | form k op =>
    refine congrArg ModelStore.models ((p.forms k).store_perform p.session ?_)
    rintro rfl
    cases h

/-- Steps that write no record leave all records. -/
theorem models_run (p : Panels) {ops : List PanelOp} (h : ∀ op ∈ ops, op.leavesRecords = true) :
    (p.run ops).session.store.models = p.session.store.models := by
  induction ops generalizing p with
  | nil => rfl
  | cons op ops ih =>
    rw [run_cons, ih _ fun other hother => h other (List.mem_cons_of_mem op hother)]
    exact p.models_step (h op List.mem_cons_self)

end Panels

namespace Report

open Poll (Token)

/-! ## When a chain is due -/

/-- Nothing was observed since the last stop, or the values have changed since the latest
observation, in more than the signs of zeros. -/
def Due (r : Report) (log : List Sight) (s : Session) : Prop :=
  lastSeen? log = none ∨
    ∃ before, lastSeen? log = some before ∧ ¬ r.SeesSame before s

/-- A report is not due exactly if its values were seen before, since the last stop, and are the
same now. -/
theorem not_due_iff {r : Report} {log : List Sight} {s : Session} :
    ¬ r.Due log s ↔
      ∃ before, lastSeen? log = some before ∧ r.SeesSame before s := by
  unfold Due
  cases lastSeen? log with
  | none => simp
  | some before => simp

/-- The values of a report are read from the records. -/
theorem values_congr (r : Report) {s t : Session} (h : s.store.models = t.store.models) :
    r.values s = r.values t := by
  have hfield : ∀ ref, s.store.fieldValue? ref = t.store.fieldValue? ref := fun ref => by
    simp only [ModelStore.fieldValue?, ModelStore.record?, h]
  simp only [values, hfield]

/-- The chain that an observation starts is current, asks for the simulation observed with the
records of that moment, and is remembered for the values of that moment. -/
structure Starts (r : Report) (s : Session) (id : String) (t : Token) (r' : Report) : Prop where
  values_eq : r'.lastValues = some (r.values s)
  chains_eq : ∃ request, Asks r.name r.appName s id request ∧
    r'.poller.chains = r.poller.chains ++ [(t, request)]
  current : r'.poller.currentToken = t ∧ r'.poller.isPolling = true

/-- What a report owes at any moment of a run, given how it was made and what has been seen of it
since. -/
structure RestartsWhenDue (client : Client) (name : String) (made r : Report) (log : List Sight) :
    Prop where
  /-- Its name and its application are those that it was made with, and what it watches stays the
  same. -/
  setup : r.name = name ∧ r.appName = client.appName ∧ r.dependencies = made.dependencies
  /-- An observation that does not fail starts a chain exactly if one is due. -/
  restarted_iff : ∀ s id o, (r.observe s id).1 = .ok o →
    ((∃ t, o = .restarted t) ↔ r.Due log s)
  /-- Otherwise it answers that nothing has changed. -/
  unchanged_iff : ∀ s id, (r.observe s id).1 = .ok .unchanged ↔ ¬ r.Due log s
  /-- It fails exactly if a chain is due and the records cannot be sent. -/
  error_iff : ∀ s id e, (r.observe s id).1 = .error e ↔
    r.Due log s ∧ ∃ fault, s.wireModels = .error fault ∧ e = .notEncodable fault
  /-- An observation that starts no chain changes nothing. -/
  kept : ∀ s id, (∀ t, (r.observe s id).1 ≠ .ok (.restarted t)) → (r.observe s id).2 = r
  /-- A chain that is started asks for the records of that moment. -/
  starts : ∀ s id t, (r.observe s id).1 = .ok (.restarted t) →
    r.Starts s id t (r.observe s id).2
  /-- Its token is greater than all before. -/
  greater : ∀ s id t, (r.observe s id).1 = .ok (.restarted t) →
    ∀ l ∈ launches log, l.token.number < t.number
  /-- The tokens of all chains were returned in increasing order. -/
  increasing : (launches log).Pairwise fun l m => l.token.number < m.token.number
  /-- The chains ever started are those that observations say they started, and each asks for the
  report, for the simulation observed and with the records of its moment. -/
  launched : List.Forall₂ (Serves name client.appName) (launches log) r.poller.chains
  /-- Steps of the application that write no record never make a chain due. -/
  quiet : ∀ (p : Panels) (ops : List PanelOp), lastSeen? log = some p.session →
    (∀ op ∈ ops, op.leavesRecords = true) →
    ∀ id, (r.observe (p.run ops).session id).1 = .ok .unchanged

section follows

variable {updates : Token → List Poll.Update} {r : Report} {log : List Sight} {s : Session}

/-- A report is due exactly if it does not remember the values. -/
theorem Follows.due_iff (h : Follows updates r log) : r.Due log s ↔ ¬ r.Remembers s := by
  rw [h.remembers_iff, ← not_due_iff, Classical.not_not]

/-- Later chains have greater tokens. -/
theorem Follows.increasing (h : Follows updates r log) :
    (launches log).Pairwise fun l m => l.token.number < m.token.number := by
  have hincreasing := h.tracks.reflects.increasing
  rwa [starts_entries, List.pairwise_map] at hincreasing

/-- A chain that is started gets a greater token than those before it. -/
theorem Follows.token_lt (h : Follows updates r log) {l : Launch} (hl : l ∈ launches log)
    (request : RunRequest) : l.token.number < (r.poller.start request).1.number := by
  obtain ⟨hcoordinator, -⟩ := r.poller.haltActive_spec
  have hnext : (r.poller.start request).1 = r.poller.coordinator.nextToken :=
    congrArg Poll.Coordinator.nextToken hcoordinator
  have hstarted : l.token ∈ Poll.starts (entries log) := by
    rw [starts_entries]
    exact List.mem_map_of_mem hl
  rw [hnext]
  exact Nat.lt_succ_of_le (h.tracks.reflects.starts_le l.token hstarted)

/-- A report that agrees with what has been seen of it owes nothing. -/
theorem Follows.restartsWhenDue {client : Client} {name : String} {made : Report}
    (h : Follows updates r log)
    (hsetup : r.name = name ∧ r.appName = client.appName ∧ r.dependencies = made.dependencies) :
    RestartsWhenDue client name made r log := by
  have hlaunched := h.launched
  rw [hsetup.1, hsetup.2.1] at hlaunched
  have hunchanged : ∀ s id, (r.observe s id).1 = .ok .unchanged ↔ ¬ r.Due log s := by
    intro s id
    rw [observe_eq_unchanged_iff, h.due_iff, Classical.not_not]
  refine ⟨hsetup, fun s id o ho => ?_, hunchanged, fun s id e => ?_,
    fun s id => observe_eq_of_not_restarted, fun s id t ht => ?_, fun s id t ht l hl => ?_,
    h.increasing, hlaunched, fun p ops hlast hops id => ?_⟩
  · rw [h.due_iff]
    cases o with
    | unchanged => simpa using observe_eq_unchanged_iff.1 ho
    | restarted t =>
      obtain ⟨request, hnot, -⟩ := observe_eq_of_restarted ho
      simpa using hnot
  · rw [observe_eq_error_iff, h.due_iff]
  · obtain ⟨request, -, hasks, rfl, hnext⟩ := observe_eq_of_restarted ht
    rw [hnext]
    exact ⟨rfl, ⟨request, hasks, Poll.Poller.chains_start _ _⟩, rfl, rfl⟩
  · obtain ⟨request, -, -, rfl, -⟩ := observe_eq_of_restarted ht
    exact h.token_lt hl _
  · rw [hunchanged, not_due_iff]
    refine ⟨p.session, hlast, ?_⟩
    exact congrArg Json.unsignedItems (r.values_congr (p.models_run hops)).symm

end follows

/-- However a new report is observed, stopped and asked for messages, with whatever is done to the
sessions in between, and whatever its chains deliver: it starts a chain exactly if one is due. -/
theorem restarts_when_due {σ : Type} {client : Client} {name : String} {own : List String}
    {form : List FieldRef} {made : Report} (policy : RetryPolicy)
    (call : Token → σ → Except ApiError Json × σ) (rounds : Token → Nat) (state : Token → σ)
    (hnew : new client name own form = .ok made) (actions : List Action) :
    RestartsWhenDue client name made
      (made.after (Poll.chainUpdates policy call rounds state) actions)
      (made.log (Poll.chainUpdates policy call rounds state) actions) :=
  (follows_run policy call rounds state hnew actions).restartsWhenDue
    (setup_run _ hnew actions)

/-- A report on the title of the memo. -/
def memoReport : Report :=
  ⟨"summary", "notes", [.memoTitle], none, .new⟩

/-- The report of the memo form watches the title. -/
theorem new_memoReport :
    new ⟨"notes"⟩ "summary" ["memo.title"] [.memoTitle] = .ok memoReport :=
  rfl

/-- The updates of chains that are completed at once. -/
def completedAtOnce : Token → List Poll.Update :=
  Poll.chainUpdates .none
    (fun _ (_ : Unit) => (.ok (.object [("state", .string "completed")]), ())) (fun _ => 1)
    fun _ => ()

/-- The title is observed for one simulation, edited, observed for another one, and committed. -/
def titleWatched : List Action :=
  [.observe (Panels.desk.run (Panels.titleEdited.take 1)).session "a", .turn (.work 0),
    .observe (Panels.desk.run Panels.titleEdited).session "b", .turn .tryNext,
    .observe (Panels.desk.run (Panels.titleEdited ++ [.form 0 .submit])).session "b"]

/-- The commit of the title starts a second chain, the edit of it does not; the second chain asks for
the simulation observed last, with the new title. -/
theorem restarts_when_due_titleWatched :
    new ⟨"notes"⟩ "summary" ["memo.title"] [.memoTitle] = .ok memoReport ∧
      (launches (memoReport.log completedAtOnce titleWatched)).map Launch.token = [⟨1⟩, ⟨2⟩] ∧
      (memoReport.after completedAtOnce titleWatched).poller.chains.getLast? =
        some (⟨2⟩, ⟨[("memo", .object (ModelRecord.memo "new" "text").entries)], false, "summary",
          "b", "notes"⟩) ∧
      RestartsWhenDue ⟨"notes"⟩ "summary" memoReport (memoReport.after completedAtOnce titleWatched)
        (memoReport.log completedAtOnce titleWatched) :=
  ⟨new_memoReport, by decide, rfl,
    restarts_when_due .none _ _ _ new_memoReport titleWatched⟩

end Report
end PanelForms

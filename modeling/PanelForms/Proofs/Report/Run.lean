import Mathlib.Data.List.Forall2
import PanelForms.Proofs.Json.Agreement
import PanelForms.Proofs.Poll.Chains
import PanelForms.Report

/-!
# Runs of a report

A report is observed with its session as it is at that moment, stopped, and asked for messages, in
any order, while the workers of its chains go on.  Nothing is assumed of the sessions: between two
observations anything may have been done to them, and they need not be the same.  This module lists
what can be seen of such a run, and shows what the state of the report says about it.

Main definitions:

- `Report.Action` and `Report.Sight`: what may happen to a report, and what is seen of it.
- `Report.lastSeen?`: the session at the latest observation since the last stop.
- `Report.launches`: the observations that started a chain.
- `Report.Asks`: what a request of a report has to contain.
- `Report.SeesSame`: the report finds the same values in two sessions, but for the signs of zeros.
- `Report.Follows`: the state of a report agrees with what has been seen of it.

Main results:

- Theorem `Report.Follows.step`: every action keeps the agreement.
- Theorem `Report.follows_run`: the state agrees with what has been seen after any run.
-/

namespace PanelForms
namespace Report

open Poll (Token Update Message)

/-! ## What may happen, and what is seen -/

/-- What happens to the poller of a report but for observations and stops: its owner takes messages,
and its workers go on. -/
inductive Turn where
  | receive
  | tryNext
  | work (worker : Nat)
  | notice (worker : Nat)

/-- The action of the poller. -/
def Turn.action : Turn → Poll.Poller.Action
  | .receive => .receive
  | .tryNext => .tryNext
  | .work i => .work i
  | .notice i => .notice i

/-- What may happen to a report. -/
inductive Action where
  | observe (s : Session) (simulationId : String)
  | stop
  | turn (t : Turn)

/-- What is seen of a report: the answer to an observation, a stop, and a message. -/
inductive Sight where
  | observed (s : Session) (simulationId : String) (answer : Except ReportError Observation)
  | stopped
  | got (m : Message)

/-- The report after an action, with what is seen of it. -/
def step (updates : Token → List Update) (r : Report) : Action → List Sight × Report
  | .observe s id =>
    let (answer, r) := r.observe s id
    ([.observed s id answer], r)
  | .stop => ([.stopped], r.stop)
  | .turn t =>
    let (got, poller) := r.poller.step updates t.action
    (got.toList.map .got, { r with poller := poller })

/-- A turn of the poller gives the messages that it gets. -/
theorem step_turn (updates : Token → List Update) (r : Report) (t : Turn) :
    r.step updates (.turn t) =
      ((r.poller.step updates t.action).1.toList.map .got,
        { r with poller := (r.poller.step updates t.action).2 }) :=
  rfl

/-- Messages and workers start no chain. -/
theorem chains_turn (updates : Token → List Update) (r : Report) (t : Turn) :
    (r.step updates (.turn t)).2.poller.chains = r.poller.chains := by
  rw [step_turn, Poll.Poller.chains_step]
  cases t <;> exact List.append_nil _

/-- The report after some actions. -/
def after (updates : Token → List Update) (r : Report) : List Action → Report
  | [] => r
  | a :: actions => after updates (r.step updates a).2 actions

/-- What is seen of some actions. -/
def log (updates : Token → List Update) (r : Report) : List Action → List Sight
  | [] => []
  | a :: actions => (r.step updates a).1 ++ log updates (r.step updates a).2 actions

/-! ## What a log tells -/

/-- An observation that started a chain: the session and the simulation that it was given, and the
token that it returned. -/
structure Launch where
  session : Session
  simulationId : String
  token : Token

namespace Sight

/-- Whether the report was stopped. -/
def isStop : Sight → Bool
  | .stopped => true
  | _ => false

/-- The session that was observed without a failure. -/
def session? : Sight → Option Session
  | .observed s _ (.ok _) => some s
  | _ => none

/-- The chain that was started. -/
def launch? : Sight → Option Launch
  | .observed s id (.ok (.restarted t)) => some ⟨s, id, t⟩
  | _ => none

/-- What the poller of the report was seen to do. -/
def entry? : Sight → Option Poll.Entry
  | .observed _ _ (.ok (.restarted t)) => some (.started t)
  | .observed _ _ _ => none
  | .stopped => some .stopped
  | .got m => some (.applied m)

end Sight

/-- What was seen since the last stop, latest first. -/
def sinceStop (log : List Sight) : List Sight :=
  log.reverse.takeWhile fun x => !x.isStop

/-- The session as it was at the latest observation since the last stop, failures left out. -/
def lastSeen? (log : List Sight) : Option Session :=
  (sinceStop log).findSome? Sight.session?

/-- The observations that started a chain, in order. -/
def launches (log : List Sight) : List Launch :=
  log.filterMap Sight.launch?

/-- What the poller of the report was seen to do, in order. -/
def entries (log : List Sight) : List Poll.Entry :=
  log.filterMap Sight.entry?

section log

variable {log more : List Sight} {x : Sight}

/-- A stop forgets what was seen. -/
theorem lastSeen?_concat_of_stop (hx : x.isStop = true) : lastSeen? (log ++ [x]) = none := by
  simp [lastSeen?, sinceStop, hx]

/-- The last observation is the one that counts. -/
theorem lastSeen?_concat_of_not_stop (hx : x.isStop = false) :
    lastSeen? (log ++ [x]) = x.session?.or (lastSeen? log) := by
  simp only [lastSeen?, sinceStop, List.reverse_append, List.reverse_cons, List.reverse_nil,
    List.nil_append, List.singleton_append, List.takeWhile_cons, hx, Bool.not_false, if_true,
    List.findSome?_cons]
  cases x.session? <;> rfl

/-- What is neither a stop nor an observation that goes through does not matter. -/
theorem lastSeen?_append_of_forall
    (hmore : ∀ x ∈ more, x.isStop = false ∧ x.session? = none) :
    lastSeen? (log ++ more) = lastSeen? log := by
  induction more generalizing log with
  | nil => rw [List.append_nil]
  | cons x more ih =>
    obtain ⟨hstop, hsession⟩ := hmore x List.mem_cons_self
    rw [List.append_cons, ih fun y hy => hmore y (List.mem_cons_of_mem x hy),
      lastSeen?_concat_of_not_stop hstop, hsession, Option.none_or]

@[simp]
theorem launches_append : launches (log ++ more) = launches log ++ launches more :=
  List.filterMap_append ..

@[simp]
theorem entries_append : entries (log ++ more) = entries log ++ entries more :=
  List.filterMap_append ..

theorem launches_concat_of_none (hx : x.launch? = none) :
    launches (log ++ [x]) = launches log := by
  simp [launches, hx]

theorem entries_concat_of_none (hx : x.entry? = none) : entries (log ++ [x]) = entries log := by
  simp [entries, hx]

/-- The messages got start no chain. -/
@[simp]
theorem launches_map_got (messages : List Message) : launches (messages.map .got) = [] := by
  simp [launches, Sight.launch?]

/-- Messages that are got are applied. -/
@[simp]
theorem entries_map_got (messages : List Message) :
    entries (messages.map .got) = messages.map .applied := by
  simp [entries, Sight.entry?, Function.comp_def]

/-- The poller was seen to start the chains that observations started. -/
theorem starts_entries (log : List Sight) :
    Poll.starts (entries log) = (launches log).map Launch.token := by
  induction log with
  | nil => rfl
  | cons x log ih =>
    rcases x with ⟨s, id, (e | _ | t)⟩ | _ | m
    case observed.ok.restarted => exact congrArg (t :: ·) ih
    all_goals exact ih

end log

/-! ## What an observation does -/

/-- The values that the report watches, in the order of its references; null stands for a value that
is missing. -/
def values (r : Report) (s : Session) : List Json :=
  r.dependencies.map fun ref => (s.store.fieldValue? ref).getD .null

/-- A request asks for a run, not a forced one, of the report of this name: it carries all records of
the session in wire form, and names the report, the simulation and the application. -/
structure Asks (name appName : String) (s : Session) (id : String) (request : RunRequest) :
    Prop where
  models_eq : s.wireModels = .ok request.models
  forceRun_eq : request.forceRun = false
  report_eq : request.report = name
  simulationId_eq : request.simulationId = id
  simulationType_eq : request.simulationType = appName

/-- The values that the report watches are the same in both sessions, but for the signs of zeros. -/
def SeesSame (r : Report) (s t : Session) : Prop :=
  Json.unsignedItems (r.values s) = Json.unsignedItems (r.values t)

/-- The values are those that the report remembers, but for the signs of zeros. -/
def Remembers (r : Report) (s : Session) : Prop :=
  ∃ last, r.lastValues = some last ∧ Json.unsignedItems last = Json.unsignedItems (r.values s)

/-- The report after it has started a chain. -/
def restarted (r : Report) (s : Session) (request : RunRequest) : Report :=
  { r with lastValues := some (r.values s), poller := (r.poller.start request).2 }

section observe

variable {r : Report} {s : Session} {id : String}

/-- A report remembers the values that it compares as the same. -/
theorem remembers_iff :
    r.Remembers s ↔ (r.lastValues.any fun last => sameValues last (r.values s)) = true := by
  rw [Option.any_eq_true]
  exact exists_congr fun last => and_congr_right fun _ => (Json.agreesItems_iff last _).symm

/-- Values that are remembered start nothing and change nothing. -/
theorem observe_of_remembers (h : r.Remembers s) : r.observe s id = (.ok .unchanged, r) := by
  unfold observe
  exact if_pos (remembers_iff.1 h)

/-- Models that cannot be sent start nothing, and the values are not remembered. -/
theorem observe_of_error {e : RecordEncodeError} (h : ¬ r.Remembers s)
    (hmodels : s.wireModels = .error e) : r.observe s id = (.error (.notEncodable e), r) := by
  unfold observe
  refine (if_neg fun hany => h (remembers_iff.2 hany)).trans ?_
  rw [hmodels]

/-- An observation that starts a chain asks for the records of that moment. -/
theorem observe_of_ok {models : Entries Json} (h : ¬ r.Remembers s)
    (hmodels : s.wireModels = .ok models) (id : String) :
    ∃ request, Asks r.name r.appName s id request ∧
      r.observe s id = (.ok (.restarted (r.poller.start request).1), r.restarted s request) := by
  refine ⟨r.request models id, ⟨hmodels, rfl, rfl, rfl, rfl⟩, ?_⟩
  unfold observe
  refine (if_neg fun hany => h (remembers_iff.2 hany)).trans ?_
  rw [hmodels]
  rfl

/-- What an observation can do. -/
theorem observe_cases (r : Report) (s : Session) (id : String) :
    (r.Remembers s ∧ r.observe s id = (.ok .unchanged, r)) ∨
      (∃ e, ¬ r.Remembers s ∧ s.wireModels = .error e ∧
        r.observe s id = (.error (.notEncodable e), r)) ∨
      ∃ request, ¬ r.Remembers s ∧ Asks r.name r.appName s id request ∧
        r.observe s id = (.ok (.restarted (r.poller.start request).1), r.restarted s request) := by
  by_cases h : r.Remembers s
  · exact Or.inl ⟨h, observe_of_remembers h⟩
  · cases hmodels : s.wireModels with
    | error e => exact Or.inr (Or.inl ⟨e, h, rfl, observe_of_error h hmodels⟩)
    | ok models =>
      obtain ⟨request, hasks, heq⟩ := observe_of_ok h hmodels id
      exact Or.inr (Or.inr ⟨request, h, hasks, heq⟩)

/-- A report answers that nothing has changed exactly if it remembers the values. -/
theorem observe_eq_unchanged_iff :
    (r.observe s id).1 = .ok .unchanged ↔ r.Remembers s := by
  rcases r.observe_cases s id with ⟨hsame, heq⟩ | ⟨e, hnot, -, heq⟩ | ⟨request, hnot, -, heq⟩
  · simp [heq, hsame]
  · simp [heq, hnot]
  · simp [heq, hnot]

/-- A report fails exactly if it does not remember the values and the models cannot be sent. -/
theorem observe_eq_error_iff {e : ReportError} :
    (r.observe s id).1 = .error e ↔
      ¬ r.Remembers s ∧ ∃ fault, s.wireModels = .error fault ∧ e = .notEncodable fault := by
  rcases r.observe_cases s id with ⟨hsame, heq⟩ | ⟨fault, hnot, hmodels, heq⟩ |
    ⟨request, -, hasks, heq⟩
  · simp [heq, hsame]
  · simp [heq, hnot, hmodels, eq_comm]
  · simp [heq, hasks.models_eq]

/-- What an observation that starts a chain does. -/
theorem observe_eq_of_restarted {t : Token} (h : (r.observe s id).1 = .ok (.restarted t)) :
    ∃ request, ¬ r.Remembers s ∧ Asks r.name r.appName s id request ∧
      t = (r.poller.start request).1 ∧ (r.observe s id).2 = r.restarted s request := by
  rcases r.observe_cases s id with ⟨-, heq⟩ | ⟨e, -, -, heq⟩ | ⟨request, hnot, hasks, heq⟩
  · rw [heq] at h
    cases h
  · rw [heq] at h
    cases h
  · rw [heq] at h ⊢
    cases h
    exact ⟨request, hnot, hasks, rfl, rfl⟩

/-- An observation that starts no chain changes nothing. -/
theorem observe_eq_of_not_restarted (h : ∀ t, (r.observe s id).1 ≠ .ok (.restarted t)) :
    (r.observe s id).2 = r := by
  rcases r.observe_cases s id with ⟨-, heq⟩ | ⟨e, -, -, heq⟩ | ⟨request, -, -, heq⟩
  · rw [heq]
  · rw [heq]
  · exact (h _ (congrArg Prod.fst heq)).elim

end observe

/-! ## The state agrees with what has been seen -/

/-- A chain is the one that an observation started, with the token that the observation returned, and
asks for the simulation and the records that the observation was given. -/
structure Serves (name appName : String) (l : Launch) (chain : Token × RunRequest) : Prop where
  token_eq : chain.1 = l.token
  asks : Asks name appName l.session l.simulationId chain.2

/-- The state of a report agrees with what has been seen of it. -/
structure Follows (updates : Token → List Update) (r : Report) (log : List Sight) : Prop where
  /-- The poller did what it was seen to do. -/
  tracks : Poll.Tracks updates r.poller (entries log)
  /-- Every chain was started by an observation, and every observation that says so started one. -/
  launched : List.Forall₂ (Serves r.name r.appName) (launches log) r.poller.chains
  /-- No values are remembered before the first observation since a stop. -/
  unseen : r.lastValues = none → lastSeen? log = none
  /-- The values remembered are those seen last, but for the signs of zeros. -/
  seen : ∀ last, r.lastValues = some last →
    ∃ s, lastSeen? log = some s ∧ Json.unsignedItems last = Json.unsignedItems (r.values s)
  /-- The values remembered are those that the last chain was started for. -/
  source : ∀ last, r.lastValues = some last →
    ∃ l, (launches log).getLast? = some l ∧ last = r.values l.session

namespace Follows

variable {updates : Token → List Update} {r : Report} {log : List Sight}

/-- The values of a session are those remembered exactly if they are those seen last. -/
theorem remembers_iff (h : Follows updates r log) (s : Session) :
    r.Remembers s ↔ ∃ before, lastSeen? log = some before ∧ r.SeesSame before s := by
  -- What is remembered was seen at the latest launch, not at the latest observation; but the two
  -- differ in the signs of zeros at most.
  constructor
  · rintro ⟨last, hlast, hsame⟩
    obtain ⟨before, hbefore, hagrees⟩ := h.seen last hlast
    exact ⟨before, hbefore, hagrees.symm.trans hsame⟩
  · rintro ⟨before, hbefore, hsame⟩
    cases hlast : r.lastValues with
    | none =>
      rw [h.unseen hlast] at hbefore
      cases hbefore
    | some last =>
      obtain ⟨seen, hseen, hagrees⟩ := h.seen last hlast
      rw [hseen] at hbefore
      obtain rfl := Option.some.inj hbefore
      exact ⟨last, hlast, hagrees.trans hsame⟩

/-- An observation that finds the values remembered keeps the agreement. -/
theorem unchanged (h : Follows updates r log) {s : Session} (id : String)
    (hsame : r.Remembers s) : Follows updates r (log ++ [.observed s id (.ok .unchanged)]) where
  tracks := by
    rw [entries_concat_of_none rfl]
    exact h.tracks
  launched := by
    rw [launches_concat_of_none rfl]
    exact h.launched
  unseen hnone := by
    obtain ⟨last, hlast, -⟩ := hsame
    rw [hnone] at hlast
    cases hlast
  seen last hlast := by
    obtain ⟨last', hlast', hagrees⟩ := hsame
    obtain rfl := Option.some.inj (hlast.symm.trans hlast')
    exact ⟨s, lastSeen?_concat_of_not_stop rfl, hagrees⟩
  source := by
    rw [launches_concat_of_none rfl]
    exact h.source

/-- The agreement is kept by what changes the poller only and starts no chain, if what is seen of it
is neither a stop nor an observation that goes through. -/
theorem turned (h : Follows updates r log) {poller : Poll.Poller} {more : List Sight}
    (htracks : Poll.Tracks updates poller (entries (log ++ more)))
    (hchains : poller.chains = r.poller.chains)
    (hmore : ∀ x ∈ more, x.isStop = false ∧ x.session? = none)
    (hlaunches : launches more = []) :
    Follows updates { r with poller := poller } (log ++ more) := by
  refine ⟨htracks, ?_, ?_, ?_, ?_⟩
  · rw [launches_append, hlaunches, List.append_nil, hchains]
    exact h.launched
  · rw [lastSeen?_append_of_forall hmore]
    exact h.unseen
  · rw [lastSeen?_append_of_forall hmore]
    exact h.seen
  · rw [launches_append, hlaunches, List.append_nil]
    exact h.source

/-- An observation that fails leaves the report to what it has seen before. -/
theorem failed (h : Follows updates r log) (s : Session) (id : String) (e : ReportError) :
    Follows updates r (log ++ [.observed s id (.error e)]) := by
  refine h.turned ?_ rfl (fun x hx => ?_) rfl
  · rw [entries_concat_of_none rfl]
    exact h.tracks
  · obtain rfl := List.mem_singleton.1 hx
    exact ⟨rfl, rfl⟩

/-- An observation that starts a chain keeps the agreement. -/
theorem restarted (h : Follows updates r log) {s : Session} {id : String} {request : RunRequest}
    (hasks : Asks r.name r.appName s id request) :
    Follows updates (r.restarted s request)
      (log ++ [.observed s id (.ok (.restarted (r.poller.start request).1))]) where
  tracks := by
    rw [entries_append]
    exact h.tracks.start _
  launched := by
    rw [launches_append]
    change List.Forall₂ (Serves r.name r.appName) _ (r.poller.start request).2.chains
    rw [Poll.Poller.chains_start]
    exact List.rel_append h.launched (.cons ⟨rfl, hasks⟩ .nil)
  unseen := nofun
  seen last hlast := by
    obtain rfl := Option.some.inj hlast
    exact ⟨s, lastSeen?_concat_of_not_stop rfl, rfl⟩
  source last hlast := by
    obtain rfl := Option.some.inj hlast
    exact ⟨⟨s, id, _⟩, by rw [launches_append]; exact List.getLast?_concat, rfl⟩

/-- A stop makes the report forget. -/
theorem stop (h : Follows updates r log) : Follows updates r.stop (log ++ [.stopped]) where
  tracks := by
    rw [entries_append]
    exact h.tracks.stop
  launched := by
    rw [launches_concat_of_none rfl]
    change List.Forall₂ (Serves r.name r.appName) (launches log) r.poller.stop.chains
    rw [Poll.Poller.chains_stop]
    exact h.launched
  unseen _ := lastSeen?_concat_of_stop rfl
  seen := nofun
  source := nofun

variable (hterminal : ∀ t, (updates t).Pairwise fun u _ => u.isTerminal = false)
include hterminal

/-- A turn of the poller leaves what the report remembers. -/
theorem turn (h : Follows updates r log) (t : Turn) :
    Follows updates (r.step updates (.turn t)).2 (log ++ (r.step updates (.turn t)).1) := by
  have hseen : r.poller.seen t.action =
      (r.poller.step updates t.action).1.toList.map .applied := by
    cases t <;> rfl
  refine h.turned ?_ (chains_turn updates r t) (fun x hx => ?_) (launches_map_got _)
  · rw [step_turn, entries_append, entries_map_got, ← hseen]
    exact h.tracks.step hterminal t.action
  · obtain ⟨m, -, rfl⟩ := List.mem_map.1 hx
    exact ⟨rfl, rfl⟩

/-- Every action keeps the agreement. -/
theorem step (h : Follows updates r log) (a : Action) :
    Follows updates (r.step updates a).2 (log ++ (r.step updates a).1) := by
  cases a with
  | observe s id =>
    rcases r.observe_cases s id with ⟨hsame, heq⟩ | ⟨e, -, -, heq⟩ | ⟨request, -, hasks, heq⟩
    · simp only [Report.step, heq]
      exact h.unchanged id hsame
    · simp only [Report.step, heq]
      exact h.failed s id _
    · simp only [Report.step, heq]
      exact h.restarted hasks
  | stop => exact h.stop
  | turn t => exact h.turn hterminal t

/-- The report agrees with its log after any actions. -/
theorem run (h : Follows updates r log) (actions : List Action) :
    Follows updates (r.after updates actions) (log ++ r.log updates actions) := by
  induction actions generalizing r log with
  | nil => simpa [Report.log, Report.after] using h
  | cons a actions ih => simpa [Report.log, Report.after] using ih (h.step hterminal a)

end Follows

/-- No action changes the name of a report, its application or what it watches. -/
theorem setup_step (updates : Token → List Update) (r : Report) (a : Action) :
    (r.step updates a).2.name = r.name ∧ (r.step updates a).2.appName = r.appName ∧
      (r.step updates a).2.dependencies = r.dependencies := by
  cases a with
  | observe s id =>
    rcases r.observe_cases s id with ⟨-, heq⟩ | ⟨e, -, -, heq⟩ | ⟨request, -, -, heq⟩
    · simp [step, heq]
    · simp [step, heq]
    · simp [step, heq, restarted]
  | stop | turn => exact ⟨rfl, rfl, rfl⟩

/-- What never changes of a report: its name, its application and what it watches. -/
theorem setup_after (updates : Token → List Update) (r : Report) (actions : List Action) :
    (r.after updates actions).name = r.name ∧ (r.after updates actions).appName = r.appName ∧
      (r.after updates actions).dependencies = r.dependencies := by
  induction actions generalizing r with
  | nil => exact ⟨rfl, rfl, rfl⟩
  | cons a actions ih =>
    obtain ⟨hname, happName, hdependencies⟩ := ih (r.step updates a).2
    rw [after, hname, happName, hdependencies]
    exact setup_step updates r a

section new

variable {client : Client} {name : String} {own : List String} {form : List FieldRef}
  {r : Report}

/-- A new report agrees with an empty log. -/
theorem follows_new (updates : Token → List Update) (hnew : new client name own form = .ok r) :
    Follows updates r [] := by
  unfold new at hnew
  split at hnew
  · cases hnew
  · cases hnew
    exact ⟨.new updates, .nil, fun _ => rfl, nofun, nofun⟩

/-- A new report keeps the name, the application and the references that it was made with. -/
theorem setup_run (updates : Token → List Update) (hnew : new client name own form = .ok r)
    (actions : List Action) :
    (r.after updates actions).name = name ∧ (r.after updates actions).appName = client.appName ∧
      (r.after updates actions).dependencies = r.dependencies := by
  have hmade : r.name = name ∧ r.appName = client.appName := by
    unfold new at hnew
    split at hnew
    · cases hnew
    · cases hnew
      exact ⟨rfl, rfl⟩
  obtain ⟨hname, happName, hdependencies⟩ := setup_after updates r actions
  exact ⟨hname.trans hmade.1, happName.trans hmade.2, hdependencies⟩

/-- Whatever the chains of a new report deliver, its state agrees with what has been seen of it
after any run. -/
theorem follows_run {σ : Type} (policy : RetryPolicy)
    (call : Token → σ → Except ApiError Json × σ) (rounds : Token → Nat) (state : Token → σ)
    (hnew : new client name own form = .ok r) (actions : List Action) :
    Follows (Poll.chainUpdates policy call rounds state)
      (r.after (Poll.chainUpdates policy call rounds state) actions)
      (r.log (Poll.chainUpdates policy call rounds state) actions) := by
  have hterminal := Poll.chainUpdates_terminal_last policy call rounds state
  simpa using (follows_new _ hnew).run hterminal actions

end new

end Report
end PanelForms

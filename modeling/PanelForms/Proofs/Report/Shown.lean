import PanelForms.Proofs.Report.Restart

/-!
# Whose updates a report shows

Until it is observed again, a report shows updates of the chain that was started last, and of no
other.  After an observation this chain stands for the values of the session observed.  It does not
always stand for the simulation that the observation was given: only the values are compared, so an
observation that finds them unchanged leaves the simulation that it was given aside.

Main definitions:

- `Report.Shows`: what a report shows until it is observed again.

Main results:

- Theorem `Report.Follows.mem_messagesOf`: only the chain started last is shown.
- Theorem `Report.shows_last_launch`: what is shown after an observation.
- Theorem `Report.not_every_simulation_followed`: it need not be the simulation observed.
-/

namespace PanelForms
namespace Report

open Poll (Token)

/-- Whether the report is observed. -/
def Action.observes : Action → Bool
  | .observe _ _ => true
  | _ => false

/-- After a session was observed, the chain started last is shown: it was started for the values of
that session and for the simulation given at its launch. -/
structure Shows (updates : Token → List Poll.Update) (client : Client) (name : String)
    (r : Report) (log : List Sight) (s : Session) (l : Launch) (chain : Token × RunRequest) :
    Prop where
  /-- The launch is the latest one. -/
  launched_last : (launches log).getLast? = some l
  /-- The chain is the one started last. -/
  started_last : r.poller.chains.getLast? = some chain
  /-- It has the token that the launch returned. -/
  token_eq : chain.1 = l.token
  /-- It asks for the simulation given at the launch, with the records of that moment in wire
  form. -/
  asks : Asks name client.appName l.session l.simulationId chain.2
  /-- The values of that moment are the current ones, but for the signs of zeros. -/
  values_eq : r.SeesSame l.session s
  /-- Until the next observation, every message got is one that this chain has to deliver. -/
  shown : ∀ between, (∀ a ∈ between, Action.observes a = false) →
    ∀ m, .got m ∈ r.log updates between → m ∈ Poll.messagesOf updates chain

namespace Follows

variable {updates : Token → List Poll.Update} {r : Report} {log : List Sight} {l : Launch}
  {chain : Token × RunRequest}

/-- The latest launch started the chain that was started last. -/
theorem exists_chain (h : Follows updates r log) (hl : (launches log).getLast? = some l) :
    ∃ chain, r.poller.chains.getLast? = some chain ∧ Serves r.name r.appName l chain := by
  have hreverse := List.forall₂_reverse_iff.2 h.launched
  rw [← List.head?_reverse] at hl
  obtain ⟨earlier, hearlier⟩ := List.head?_eq_some_iff.1 hl
  rw [hearlier] at hreverse
  obtain ⟨chain, others, hserves, -, hothers⟩ := List.forall₂_cons_left_iff.1 hreverse
  refine ⟨chain, ?_, hserves⟩
  rw [← List.head?_reverse, hothers]
  rfl

variable (hterminal : ∀ t, (updates t).Pairwise fun u _ => u.isTerminal = false)
include hterminal

/-- A message that the owner gets comes from the chain started last. -/
theorem mem_messagesOf_turn (h : Follows updates r log)
    (hchain : r.poller.chains.getLast? = some chain) {t : Turn} {m : Poll.Message}
    (hm : .got m ∈ (r.step updates (.turn t)).1) : m ∈ Poll.messagesOf updates chain := by
  have htracks := (h.turn hterminal t).tracks
  have hgot : (r.step updates (.turn t)).1 = [.got m] := by
    rw [step_turn] at hm ⊢
    cases hstep : (r.poller.step updates t.action).1 with
    | none => simp [hstep] at hm
    | some n =>
      obtain rfl : m = n := by simpa [hstep] using hm
      rfl
  rw [hgot, entries_append] at htracks
  -- A message is got only while its chain is live, and then this chain was started last.
  have hlive : Poll.Live (entries log) m.token := htracks.orderly.while_live _ m [] rfl
  obtain ⟨last, hlast, hmem⟩ := htracks.mem_messagesOf_last
    (List.mem_filterMap.2 ⟨.applied m, by simp [entries, Sight.entry?], rfl⟩)
    (Poll.latest_concat_applied.2 hlive.latest)
  rw [chains_turn, hchain] at hlast
  obtain rfl := Option.some.inj hlast
  exact hmem

/-- Until a report is observed again, only the chain started last is shown. -/
theorem mem_messagesOf (h : Follows updates r log)
    (hchain : r.poller.chains.getLast? = some chain) {between : List Action}
    (hbetween : ∀ a ∈ between, a.observes = false) {m : Poll.Message}
    (hm : .got m ∈ r.log updates between) : m ∈ Poll.messagesOf updates chain := by
  -- Neither a stop nor a turn starts a chain, so the one started last stays the same.
  induction between generalizing r log with
  | nil => cases hm
  | cons a between ih =>
    have hrest : ∀ b ∈ between, b.observes = false :=
      fun b hb => hbetween b (List.mem_cons_of_mem a hb)
    rw [Report.log, List.mem_append] at hm
    cases a with
    | observe s id => cases hbetween _ List.mem_cons_self
    | stop =>
      rcases hm with hm | hm
      · cases List.mem_singleton.1 hm
      · refine ih h.stop ?_ hrest hm
        rw [← hchain]
        exact congrArg List.getLast? (Poll.Poller.chains_stop _)
    | turn t =>
      rcases hm with hm | hm
      · exact h.mem_messagesOf_turn hterminal hchain hm
      · refine ih (h.turn hterminal t) ?_ hrest hm
        rw [chains_turn, hchain]

/-- After an observation that does not fail, the chain of the latest launch is shown.  That is the
launch of this observation, or the latest one before it if the values were unchanged. -/
theorem shows (h : Follows updates r log) {client : Client} {name : String}
    (hsetup : r.name = name ∧ r.appName = client.appName) {s : Session} {id : String}
    {o : Observation} (hok : (r.observe s id).1 = .ok o) :
    ∃ l chain,
      Shows updates client name (r.observe s id).2 (log ++ [.observed s id (.ok o)]) s l chain ∧
      (∀ t, o = .restarted t → l = ⟨s, id, t⟩) ∧
      (o = .unchanged → (launches log).getLast? = some l) := by
  have hnext := h.step hterminal (.observe s id)
  simp only [Report.step, hok] at hnext
  have hseen : lastSeen? (log ++ [.observed s id (.ok o)]) = some s :=
    lastSeen?_concat_of_not_stop rfl
  obtain ⟨last, hlast⟩ : ∃ last, (r.observe s id).2.lastValues = some last := by
    refine Option.ne_none_iff_exists'.1 fun hnone => ?_
    rw [hnext.unseen hnone] at hseen
    cases hseen
  obtain ⟨s', hs', hsame⟩ := hnext.seen last hlast
  obtain rfl := Option.some.inj (hseen.symm.trans hs')
  obtain ⟨l, hl, rfl⟩ := hnext.source last hlast
  obtain ⟨chain, hchain, hserves⟩ := hnext.exists_chain hl
  obtain ⟨hname, happName, -⟩ := setup_step updates r (.observe s id)
  have hasks : Asks name client.appName l.session l.simulationId chain.2 := by
    rw [← hsetup.1, ← hsetup.2, ← hname, ← happName]
    exact hserves.asks
  refine ⟨l, chain, ⟨hl, hchain, hserves.token_eq, hasks, hsame, fun between hbetween m hm => ?_⟩,
    ?_, ?_⟩
  · exact hnext.mem_messagesOf hterminal hchain hbetween hm
  · rintro t rfl
    rw [launches_append] at hl
    exact (Option.some.inj (List.getLast?_concat.symm.trans hl)).symm
  · rintro rfl
    rwa [launches_concat_of_none rfl] at hl

end Follows

section observed

variable {σ : Type} {client : Client} {name : String} {own : List String}
  {form : List FieldRef} {made : Report}

/-- After an observation that does not fail, a new report that has been through any run shows the
chain of its latest launch, for the values of the session observed, until it is observed again. -/
theorem shows_last_launch (policy : RetryPolicy) (call : Token → σ → Except ApiError Json × σ)
    (rounds : Token → Nat) (state : Token → σ) (hnew : new client name own form = .ok made)
    (actions : List Action) (s : Session) (id : String) (o : Observation)
    (hok : ((made.after (Poll.chainUpdates policy call rounds state) actions).observe s id).1 =
      .ok o) :
    ∃ l chain,
      Shows (Poll.chainUpdates policy call rounds state) client name
        ((made.after (Poll.chainUpdates policy call rounds state) actions).observe s id).2
        (made.log (Poll.chainUpdates policy call rounds state) actions ++
          [.observed s id (.ok o)])
        s l chain ∧
      (∀ t, o = .restarted t → l = ⟨s, id, t⟩) ∧
      (o = .unchanged →
        (launches (made.log (Poll.chainUpdates policy call rounds state) actions)).getLast? =
          some l) := by
  have hterminal := Poll.chainUpdates_terminal_last policy call rounds state
  obtain ⟨hname, happName, -⟩ := setup_run (Poll.chainUpdates policy call rounds state) hnew actions
  exact (follows_run policy call rounds state hnew actions).shows hterminal ⟨hname, happName⟩ hok

/-- The title of the memo is observed for a second simulation while it is edited: the chain of the
first one is shown. -/
theorem shows_last_launch_titleWatched :
    new ⟨"notes"⟩ "summary" ["memo.title"] [.memoTitle] = .ok memoReport ∧
      ((memoReport.after completedAtOnce (titleWatched.take 2)).observe
        (Panels.desk.run Panels.titleEdited).session "b").1 = .ok .unchanged ∧
      ∃ l chain,
        Shows completedAtOnce ⟨"notes"⟩ "summary"
          ((memoReport.after completedAtOnce (titleWatched.take 2)).observe
            (Panels.desk.run Panels.titleEdited).session "b").2
          (memoReport.log completedAtOnce (titleWatched.take 2) ++
            [.observed (Panels.desk.run Panels.titleEdited).session "b" (.ok .unchanged)])
          (Panels.desk.run Panels.titleEdited).session l chain ∧
        (∀ t, Observation.unchanged = .restarted t →
          l = ⟨(Panels.desk.run Panels.titleEdited).session, "b", t⟩) ∧
        (Observation.unchanged = .unchanged →
          (launches (memoReport.log completedAtOnce (titleWatched.take 2))).getLast? = some l) :=
  ⟨new_memoReport, rfl, shows_last_launch .none _ _ _ new_memoReport (titleWatched.take 2)
    (Panels.desk.run Panels.titleEdited).session "b" .unchanged rfl⟩

/-- The chain that is shown after an observation need not be one for the simulation that the
observation was given. -/
theorem not_every_simulation_followed :
    ¬ ∀ (policy : RetryPolicy) (call : Token → Unit → Except ApiError Json × Unit)
        (rounds : Token → Nat) (state : Token → Unit) (client : Client) (name : String)
        (own : List String) (form : List FieldRef) (made : Report),
        new client name own form = .ok made →
        ∀ (actions : List Action) (s : Session) (id : String) (o : Observation),
          ((made.after (Poll.chainUpdates policy call rounds state) actions).observe s id).1 =
            .ok o →
          ∃ l chain,
            Shows (Poll.chainUpdates policy call rounds state) client name
              ((made.after (Poll.chainUpdates policy call rounds state) actions).observe s id).2
              (made.log (Poll.chainUpdates policy call rounds state) actions ++
                [.observed s id (.ok o)])
              s l chain ∧
            chain.2.simulationId = id := by
  intro h
  obtain ⟨l, chain, hshows, hid⟩ := h .none _ _ _ ⟨"notes"⟩ "summary" ["memo.title"] [.memoTitle]
    memoReport new_memoReport (titleWatched.take 2)
    (Panels.desk.run Panels.titleEdited).session "b" .unchanged
    (rfl : ((memoReport.after completedAtOnce (titleWatched.take 2)).observe
      (Panels.desk.run Panels.titleEdited).session "b").1 = .ok .unchanged)
  have hasked : ((memoReport.after completedAtOnce (titleWatched.take 2)).observe
      (Panels.desk.run Panels.titleEdited).session "b").2.poller.chains.getLast?.map
        (fun c => c.2.simulationId) = some "a" := by
    decide
  have hstarted : ((memoReport.after completedAtOnce (titleWatched.take 2)).observe
      (Panels.desk.run Panels.titleEdited).session "b").2.poller.chains.getLast? = some chain :=
    hshows.started_last
  rw [hstarted, Option.map_some, hid] at hasked
  exact absurd hasked (by decide)

end observed

end Report
end PanelForms

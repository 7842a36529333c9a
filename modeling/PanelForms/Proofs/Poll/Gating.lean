import PanelForms.Poll.Coordinator

/-!
# Gating by history

A coordinator keeps a token and a flag, and applies a message by looking at these two only.  Here
they are shown to stand for the whole history of the coordinator: a message is applied exactly if
its chain was started last and has neither been stopped nor delivered its last update since.

Main definitions:

- `Poll.Entry`: what was done to a coordinator, and how it answered.
- `Poll.Latest`, `Poll.Live`: the chain that a history makes current, and whether it may deliver.
- `Coordinator.history`: the history of a list of calls.
- `Poll.Reflects`: a coordinator stands for a history.
- `Poll.Orderly`: what the messages applied in a history obey.

Main results:

- Theorem `Reflects.after`: a coordinator that stands for a history still does after any calls.
- Theorem `Coordinator.gating_refines_history`: what a new coordinator answers is what its history
  dictates, and neither its trace nor dropping the trace matters.
-/

namespace PanelForms
namespace Poll

/-! ## Histories -/

/-- An entry of a history: a chain was started, the current chain was stopped, the trace was
dropped, or a message was applied or discarded. -/
inductive Entry where
  | started (token : Token)
  | stopped
  | cleared
  | applied (m : Message)
  | discarded (m : Message)
  deriving DecidableEq

namespace Entry

/-- The chain that was started. -/
def start? : Entry → Option Token
  | .started t => some t
  | _ => none

/-- The message that was applied. -/
def applied? : Entry → Option Message
  | .applied m => some m
  | _ => none

/-- The current chain stays current: no chain is started, and none is stopped. -/
def keepsCurrent : Entry → Bool
  | .started _ | .stopped => false
  | _ => true

/-- The current chain may go on: no chain is started, none is stopped, and no last update is
applied. -/
def keepsOpen : Entry → Bool
  | .applied m => !m.update.isTerminal
  | e => e.keepsCurrent

end Entry

/-- The entry is in the history, and all entries since keep something. -/
def Since (keeps : Entry → Bool) (entry : Entry) (h : List Entry) : Prop :=
  ∃ before since, h = before ++ entry :: since ∧ ∀ e ∈ since, keeps e = true

/-- The chain was started last, and it has not been stopped. -/
def Latest (h : List Entry) (t : Token) : Prop :=
  Since Entry.keepsCurrent (.started t) h

/-- The chain was started last, and it has neither been stopped nor has its last update been
applied. -/
def Live (h : List Entry) (t : Token) : Prop :=
  Since Entry.keepsOpen (.started t) h

/-- The chains started, in order. -/
def starts (h : List Entry) : List Token :=
  h.filterMap Entry.start?

/-- The messages applied, in order. -/
def appliedIn (h : List Entry) : List Message :=
  h.filterMap Entry.applied?

section history

variable {h : List Entry} {e : Entry} {t u : Token} {m : Message}

theorem not_since_nil {keeps : Entry → Bool} : ¬ Since keeps e [] := by
  rintro ⟨before, since, heq, -⟩
  simp at heq

/-- What stands in a history with one more entry is this entry, or stands in the history. -/
theorem concat_eq_split_iff {entry : Entry} {before after : List Entry} :
    h ++ [e] = before ++ entry :: after ↔
      (after = [] ∧ h = before ∧ e = entry) ∨
        ∃ earlier, after = earlier ++ [e] ∧ h = before ++ entry :: earlier := by
  constructor
  · intro heq
    rcases List.eq_nil_or_concat after with rfl | ⟨earlier, last, hlast⟩
    · exact Or.inl ⟨rfl, List.append_inj_left' heq rfl,
        List.singleton_inj.1 (List.append_inj_right' heq rfl)⟩
    · rw [List.concat_eq_append] at hlast
      subst hlast
      have hsplit : h ++ [e] = (before ++ entry :: earlier) ++ [last] := by simp [heq]
      obtain rfl : e = last := List.singleton_inj.1 (List.append_inj_right' hsplit rfl)
      exact Or.inr ⟨earlier, rfl, List.append_inj_left' hsplit rfl⟩
  · rintro (⟨rfl, rfl, rfl⟩ | ⟨earlier, rfl, rfl⟩)
    · rfl
    · simp

/-- One more entry is the one looked for, or keeps what has been kept since it. -/
theorem since_concat {keeps : Entry → Bool} {entry : Entry} :
    Since keeps entry (h ++ [e]) ↔ e = entry ∨ (keeps e = true ∧ Since keeps entry h) := by
  constructor
  · rintro ⟨before, since, heq, hkeeps⟩
    rcases concat_eq_split_iff.1 heq with ⟨-, -, rfl⟩ | ⟨earlier, rfl, rfl⟩
    · exact Or.inl rfl
    · exact Or.inr ⟨hkeeps e (by simp), before, earlier, rfl,
        fun x hx => hkeeps x (List.mem_append_left _ hx)⟩
  · rintro (rfl | ⟨he, before, since, rfl, hkeeps⟩)
    · exact ⟨h, [], rfl, by simp⟩
    · refine ⟨before, since ++ [e], by simp, ?_⟩
      intro x hx
      rcases List.mem_append.1 hx with hx | hx
      · exact hkeeps x hx
      · rwa [List.mem_singleton.1 hx]

theorem not_live_nil : ¬ Live [] t :=
  not_since_nil

theorem not_latest_nil : ¬ Latest [] t :=
  not_since_nil

/-- A chain is live after one more entry if that starts it, or if it was live and the entry leaves
chains open. -/
theorem live_concat :
    Live (h ++ [e]) t ↔ e = .started t ∨ (e.keepsOpen = true ∧ Live h t) :=
  since_concat

/-- A chain is current after one more entry if that starts it, or if it was current and the entry
neither starts nor stops a chain. -/
theorem latest_concat :
    Latest (h ++ [e]) t ↔ e = .started t ∨ (e.keepsCurrent = true ∧ Latest h t) :=
  since_concat

/-- After a start its chain alone is live. -/
theorem live_concat_started : Live (h ++ [.started u]) t ↔ u = t := by
  simp [live_concat, Entry.keepsOpen, Entry.keepsCurrent]

/-- After a start the started chain is current and no other. -/
theorem latest_concat_started : Latest (h ++ [.started u]) t ↔ u = t := by
  simp [latest_concat, Entry.keepsCurrent]

theorem not_live_concat_stopped : ¬ Live (h ++ [.stopped]) t := by
  simp [live_concat, Entry.keepsOpen, Entry.keepsCurrent]

theorem not_latest_concat_stopped : ¬ Latest (h ++ [.stopped]) t := by
  simp [latest_concat, Entry.keepsCurrent]

/-- The last update of a chain ends it. -/
theorem live_concat_applied :
    Live (h ++ [.applied m]) t ↔ m.update.isTerminal = false ∧ Live h t := by
  simp [live_concat, Entry.keepsOpen]

theorem latest_concat_applied : Latest (h ++ [.applied m]) t ↔ Latest h t := by
  simp [latest_concat, Entry.keepsCurrent]

theorem starts_concat_started : starts (h ++ [.started t]) = starts h ++ [t] :=
  List.filterMap_append ..

theorem starts_concat_of_none (he : e.start? = none) : starts (h ++ [e]) = starts h := by
  simp [starts, he]

theorem appliedIn_concat_applied : appliedIn (h ++ [.applied m]) = appliedIn h ++ [m] :=
  List.filterMap_append ..

theorem appliedIn_concat_of_none (he : e.applied? = none) :
    appliedIn (h ++ [e]) = appliedIn h := by
  simp [appliedIn, he]

/-- What leaves chains open leaves them current. -/
theorem keepsCurrent_of_keepsOpen (he : e.keepsOpen = true) : e.keepsCurrent = true := by
  cases e <;> simp_all [Entry.keepsOpen, Entry.keepsCurrent]

/-- A chain that may deliver is the current one. -/
theorem Live.latest (hlive : Live h t) : Latest h t := by
  obtain ⟨before, since, heq, hkeeps⟩ := hlive
  exact ⟨before, since, heq, fun e he => keepsCurrent_of_keepsOpen (hkeeps e he)⟩

end history

/-! ## Calls -/

/-- A call of a coordinator. -/
inductive Call where
  | start
  | stop
  | clearTrace
  | accept (m : Message)
  deriving DecidableEq

namespace Coordinator

/-- A call, with the entry that it adds to the history. -/
def call (c : Coordinator) : Call → Entry × Coordinator
  | .start => (.started c.nextToken, c.start)
  | .stop => (.stopped, c.stop)
  | .clearTrace => (.cleared, c.clearTrace)
  | .accept m =>
    match c.accept m with
    | (some m, c) => (.applied m, c)
    | (none, c) => (.discarded m, c)

/-- The coordinator after some calls. -/
def after (c : Coordinator) : List Call → Coordinator
  | [] => c
  | a :: calls => after (c.call a).2 calls

/-- The history of some calls. -/
def history (c : Coordinator) : List Call → List Entry
  | [] => []
  | a :: calls => (c.call a).1 :: history (c.call a).2 calls

variable {c : Coordinator} {m : Message}

/-- A message applies if the coordinator is open and the message is of its current chain. -/
theorem applies_iff : c.applies m = true ↔ c.isOpen = true ∧ c.current = m.token := by
  rw [applies, Bool.and_eq_true, decide_eq_true_iff, and_comm]
  exact and_congr_right fun _ => eq_comm

/-- A message that applies is returned, and the last one of its chain closes the gate. -/
theorem accept_of_applies (h : c.applies m = true) :
    c.accept m = (some m,
      { c with
        isOpen := !m.update.isTerminal
        trace := c.trace.push (.applied m.token m.update.kind) }) := by
  simp [accept, h]

/-- A message that is not applied leaves everything but the trace. -/
theorem accept_of_not_applies (h : c.applies m = false) :
    ∃ trace, c.accept m = (none, { c with trace := trace }) :=
  ⟨_, by simp [accept, h]; rfl⟩

/-- A message changes no numbers. -/
theorem lastToken_accept (c : Coordinator) (m : Message) :
    (c.accept m).2.lastToken = c.lastToken := by
  unfold accept
  split <;> rfl

end Coordinator

/-! ## The state stands for the history -/

/-- A coordinator stands for a history: it is open for the live chain, its token is the one of the
chain started last, and the chains are numbered in the order of their starts. -/
structure Reflects (c : Coordinator) (h : List Entry) : Prop where
  /-- The flag and the token tell the live chain. -/
  live_iff : ∀ t, Live h t ↔ c.isOpen = true ∧ c.current = t
  /-- The token tells the chain started last. -/
  latest_iff : ∀ t, Latest h t ↔ c.current = t ∧ t ≠ .none
  /-- The current chain is the one numbered last. -/
  newest : ∀ t, Latest h t → t.number = c.lastToken
  /-- Every chain started has a greater number than those before it. -/
  increasing : (starts h).Pairwise fun t u => t.number < u.number
  /-- No chain started has a greater number than the last one. -/
  starts_le : ∀ t ∈ starts h, t.number ≤ c.lastToken

namespace Reflects

variable {c : Coordinator} {h : List Entry} {m : Message}

theorem new (capacity : Nat) : Reflects (.withCapacity capacity) [] where
  live_iff t := by simp [not_live_nil, Coordinator.withCapacity]
  latest_iff t := by simpa [not_latest_nil, Coordinator.withCapacity] using Eq.symm
  newest t hlatest := (not_latest_nil hlatest).elim
  increasing := List.Pairwise.nil
  starts_le := nofun

/-- Nothing but the trace of a coordinator may change without an entry. -/
theorem withTrace (hc : Reflects c h) (trace : Trace) : Reflects { c with trace := trace } h :=
  ⟨hc.live_iff, hc.latest_iff, hc.newest, hc.increasing, hc.starts_le⟩

/-- An entry that neither starts, stops nor applies anything tells nothing about the state. -/
theorem pass (hc : Reflects c h) {e : Entry} (hopen : e.keepsOpen = true)
    (hstart : e.start? = none) : Reflects c (h ++ [e]) := by
  have hne : ∀ t, e ≠ .started t := by
    rintro t rfl
    cases hstart
  have hstarts : starts (h ++ [e]) = starts h := starts_concat_of_none hstart
  exact {
    live_iff := fun t => by simpa [live_concat, hne, hopen] using hc.live_iff t
    latest_iff := fun t => by
      simpa [latest_concat, hne, keepsCurrent_of_keepsOpen hopen] using hc.latest_iff t
    newest := fun t => by
      simpa [latest_concat, hne, keepsCurrent_of_keepsOpen hopen] using hc.newest t
    increasing := hstarts ▸ hc.increasing
    starts_le := hstarts ▸ hc.starts_le }

/-- A start is the newest chain, and the live one. -/
theorem start (hc : Reflects c h) : Reflects c.start (h ++ [.started c.nextToken]) := by
  have hcurrent : c.start.current = c.nextToken := rfl
  have hlast : c.start.lastToken = c.nextToken.number := rfl
  have hnext : c.nextToken.number = c.lastToken + 1 := rfl
  refine ⟨fun t => ?_, fun t => ?_, fun t hlatest => ?_, ?_, fun t ht => ?_⟩
  · rw [live_concat_started, hcurrent]
    exact (and_iff_right rfl).symm
  · rw [latest_concat_started, hcurrent]
    refine ⟨?_, And.left⟩
    rintro rfl
    exact ⟨rfl, nofun⟩
  · rw [hlast, latest_concat_started.1 hlatest]
  · rw [starts_concat_started, List.pairwise_append]
    refine ⟨hc.increasing, List.pairwise_singleton _ _, ?_⟩
    intro t ht u hu
    rw [List.mem_singleton.1 hu, hnext]
    exact Nat.lt_succ_of_le (hc.starts_le t ht)
  · rw [starts_concat_started, List.mem_append, List.mem_singleton] at ht
    rcases ht with ht | rfl
    · exact Nat.le_succ_of_le (hc.starts_le t ht)
    · exact Nat.le_refl _

/-- A stop leaves no chain live. -/
theorem stop (hc : Reflects c h) : Reflects c.stop (h ++ [.stopped]) := by
  have hstarts : starts (h ++ [.stopped]) = starts h := starts_concat_of_none rfl
  refine ⟨fun t => iff_of_false not_live_concat_stopped ?_,
    fun t => iff_of_false not_latest_concat_stopped ?_,
    fun t hlatest => (not_latest_concat_stopped hlatest).elim,
    hstarts ▸ hc.increasing, hstarts ▸ hc.starts_le⟩
  · rintro ⟨hopen, -⟩
    cases hopen
  · rintro ⟨hcurrent, hne⟩
    exact hne hcurrent.symm

/-- A message is applied exactly if its chain is live. -/
theorem applies_iff_live (hc : Reflects c h) : c.applies m = true ↔ Live h m.token :=
  Coordinator.applies_iff.trans (hc.live_iff m.token).symm

/-- A message that applies is of the live chain, and the last one of that chain ends it. -/
theorem applied (hc : Reflects c h) (happlies : c.applies m = true) :
    Reflects (c.accept m).2 (h ++ [.applied m]) := by
  have hstarts : starts (h ++ [.applied m]) = starts h := starts_concat_of_none rfl
  rw [Coordinator.accept_of_applies happlies]
  refine ⟨fun t => ?_, fun t => latest_concat_applied.trans (hc.latest_iff t),
    fun t hlatest => hc.newest t (latest_concat_applied.1 hlatest),
    hstarts ▸ hc.increasing, hstarts ▸ hc.starts_le⟩
  have hopen : c.isOpen = true := (Coordinator.applies_iff.1 happlies).1
  simp [live_concat_applied, hc.live_iff t, hopen]

/-- A message that is discarded need not be in the history. -/
theorem discarded (hc : Reflects c h) (happlies : c.applies m = false) :
    Reflects (c.accept m).2 h := by
  obtain ⟨trace, heq⟩ := Coordinator.accept_of_not_applies happlies
  rw [heq]
  exact hc.withTrace trace

/-- Every call adds its entry to the history that the coordinator stands for. -/
theorem call (hc : Reflects c h) (a : Call) : Reflects (c.call a).2 (h ++ [(c.call a).1]) := by
  cases a with
  | start => exact hc.start
  | stop => exact hc.stop
  | clearTrace => exact (hc.withTrace c.trace.clear).pass rfl rfl
  | accept m =>
    cases happlies : c.applies m with
    | true =>
      have happlied := hc.applied happlies
      rw [Coordinator.accept_of_applies happlies] at happlied
      simpa [Coordinator.call, Coordinator.accept_of_applies happlies] using happlied
    | false =>
      obtain ⟨trace, heq⟩ := Coordinator.accept_of_not_applies happlies
      simpa [Coordinator.call, heq] using (hc.withTrace trace).pass (e := .discarded m) rfl rfl

/-- The state stands for the history after any calls. -/
theorem after (hc : Reflects c h) (calls : List Call) :
    Reflects (c.after calls) (h ++ c.history calls) := by
  induction calls generalizing c h with
  | nil => simpa [Coordinator.history, Coordinator.after] using hc
  | cons a calls ih => simpa [Coordinator.history, Coordinator.after] using ih (hc.call a)

end Reflects

/-! ## What has been applied -/

/-- What the messages applied in a history obey, no chain being numbered above `last`. -/
structure Orderly (last : Nat) (h : List Entry) : Prop where
  /-- A message is applied while its chain is live. -/
  while_live : ∀ before m after, h = before ++ .applied m :: after → Live before m.token
  /-- The tokens of the messages applied never decrease. -/
  ordered : (appliedIn h).Pairwise fun m n => m.token.number ≤ n.token.number
  /-- No message applied has a greater token than the last chain. -/
  bounded : ∀ m ∈ appliedIn h, m.token.number ≤ last
  /-- An update that another one of its chain follows is not the last of the chain. -/
  terminal_last :
    (appliedIn h).Pairwise fun m n => m.token = n.token → m.update.isTerminal = false
  /-- No update applied of a live chain is the last of the chain. -/
  unfinished : ∀ t, Live h t → ∀ m ∈ appliedIn h, m.token = t → m.update.isTerminal = false

namespace Orderly

variable {last : Nat} {h : List Entry} {m : Message}

/-- An empty history is in order. -/
theorem nil : Orderly last [] where
  while_live := by simp
  ordered := List.Pairwise.nil
  bounded := nofun
  terminal_last := List.Pairwise.nil
  unfinished := nofun

/-- An entry that applies nothing keeps the order, as long as no chain becomes live of which
something has been applied. -/
theorem pass (ho : Orderly last h) {e : Entry} (he : e.applied? = none) {next : Nat}
    (hnext : last ≤ next)
    (hlive : ∀ t, Live (h ++ [e]) t → Live h t ∨ last < t.number) :
    Orderly next (h ++ [e]) := by
  have happlied : appliedIn (h ++ [e]) = appliedIn h := appliedIn_concat_of_none he
  refine ⟨?_, happlied ▸ ho.ordered, ?_, happlied ▸ ho.terminal_last, ?_⟩
  · intro before m after heq
    rcases concat_eq_split_iff.1 heq with ⟨-, -, rfl⟩ | ⟨earlier, -, hearlier⟩
    · cases he
    · exact ho.while_live before m earlier hearlier
  · rw [happlied]
    exact fun m hm => Nat.le_trans (ho.bounded m hm) hnext
  · rw [happlied]
    rintro t ht m hm rfl
    rcases hlive m.token ht with hbefore | hgreater
    · exact ho.unfinished m.token hbefore m hm rfl
    · exact absurd (ho.bounded m hm) (Nat.not_le_of_lt hgreater)

/-- A message of the last chain may be applied while it is live. -/
theorem applied (ho : Orderly last h) (hlive : Live h m.token) (hlast : m.token.number = last) :
    Orderly last (h ++ [.applied m]) := by
  have happlied : appliedIn (h ++ [.applied m]) = appliedIn h ++ [m] := appliedIn_concat_applied
  refine ⟨?_, ?_, ?_, ?_, ?_⟩
  · intro before n after heq
    rcases concat_eq_split_iff.1 heq with ⟨-, rfl, hsame⟩ | ⟨earlier, -, hearlier⟩
    · cases hsame
      exact hlive
    · exact ho.while_live before n earlier hearlier
  · rw [happlied, List.pairwise_append]
    refine ⟨ho.ordered, List.pairwise_singleton _ _, fun n hn k hk => ?_⟩
    rw [List.mem_singleton.1 hk, hlast]
    exact ho.bounded n hn
  · rw [happlied]
    intro n hn
    rcases List.mem_append.1 hn with hn | hn
    · exact ho.bounded n hn
    · obtain rfl := List.mem_singleton.1 hn
      exact Nat.le_of_eq hlast
  · rw [happlied, List.pairwise_append]
    refine ⟨ho.terminal_last, List.pairwise_singleton _ _, fun n hn k hk hsame => ?_⟩
    rw [List.mem_singleton.1 hk] at hsame
    exact ho.unfinished m.token hlive n hn hsame
  · rw [happlied]
    intro t ht n hn hsame
    obtain ⟨hterminal, hbefore⟩ := live_concat_applied.1 ht
    rcases List.mem_append.1 hn with hn | hn
    · exact ho.unfinished t hbefore n hn hsame
    · rwa [List.mem_singleton.1 hn]

end Orderly

/-! ## The trace does not matter -/

namespace Coordinator

/-- The state without the trace. -/
def gate (c : Coordinator) : Nat × Token × Bool :=
  (c.lastToken, c.current, c.isOpen)

/-- Coordinators that differ in their traces only answer a call alike, and differ in their traces
only afterwards. -/
theorem call_congr {c d : Coordinator} (hgate : c.gate = d.gate) (a : Call) :
    (c.call a).1 = (d.call a).1 ∧ (c.call a).2.gate = (d.call a).2.gate := by
  obtain ⟨last, current, isOpen, trace⟩ := c
  obtain ⟨last', current', isOpen', trace'⟩ := d
  obtain ⟨rfl, rfl, rfl⟩ : last = last' ∧ current = current' ∧ isOpen = isOpen' := by
    simpa [gate] using hgate
  cases a with
  | start | stop | clearTrace => exact ⟨rfl, rfl⟩
  | accept m =>
    simp only [call, accept, applies]
    cases decide (m.token = current) && isOpen <;> exact ⟨rfl, rfl⟩

/-- Dropping the trace may be left out of any calls, whatever the traces: the other calls are
answered alike. -/
theorem history_filter_clearTrace {c d : Coordinator} (hgate : c.gate = d.gate)
    (calls : List Call) :
    (c.history calls).filter (· ≠ .cleared) = d.history (calls.filter (· ≠ .clearTrace)) ∧
      (c.after calls).gate = (d.after (calls.filter (· ≠ .clearTrace))).gate := by
  induction calls generalizing c d with
  | nil => exact ⟨rfl, hgate⟩
  | cons a calls ih =>
    by_cases ha : a = .clearTrace
    · subst ha
      exact ih hgate
    · have hentry : (c.call a).1 ≠ .cleared := by
        cases a with
        | start | stop => nofun
        | clearTrace => exact (ha rfl).elim
        | accept m =>
          simp only [call]
          split <;> nofun
      obtain ⟨hsame, hnext⟩ := call_congr hgate a
      obtain ⟨hhistory, hafter⟩ := ih hnext
      rw [List.filter_cons_of_pos (by simpa using ha)]
      refine ⟨?_, hafter⟩
      rw [history, history, List.filter_cons_of_pos (by simpa using hentry), hhistory, hsame]

/-- The answers of a coordinator are those that a history dictates. -/
structure Obeys (c : Coordinator) (h : List Entry) : Prop where
  /-- A message is applied exactly if its chain is live. -/
  applies : ∀ m, (c.accept m).1 = some m ↔ Live h m.token
  /-- Every other message is discarded. -/
  discards : ∀ m, (c.accept m).1 = none ↔ ¬ Live h m.token
  /-- The coordinator is open exactly while a chain is live. -/
  isOpen_iff : c.isOpen = true ↔ ∃ t, Live h t
  /-- The token is the one of the chain started last, and none if there is no such chain or it has
  been stopped. -/
  current_iff : ∀ t, c.current = t ↔ Latest h t ∨ (t = .none ∧ ∀ u, ¬ Latest h u)
  /-- Every start returned a greater token than those before it. -/
  increasing : (starts h).Pairwise fun t u => t.number < u.number
  /-- The next start returns a greater token than all of them. -/
  next_greater : ∀ t ∈ starts h, t.number < c.nextToken.number

/-- A coordinator that stands for a history answers as the history says. -/
theorem obeys_of_reflects {c : Coordinator} {h : List Entry} (hc : Reflects c h) :
    c.Obeys h := by
  refine ⟨fun m => ?_, fun m => ?_, ?_, fun t => ?_, hc.increasing, fun t ht => ?_⟩
  · rw [← hc.applies_iff_live]
    cases happlies : c.applies m <;> simp [accept, happlies]
  · rw [← hc.applies_iff_live]
    cases happlies : c.applies m <;> simp [accept, happlies]
  · simp [hc.live_iff]
  · simp only [hc.latest_iff]
    by_cases hnone : c.current = .none
    · simp only [hnone]
      constructor
      · rintro rfl
        exact Or.inr ⟨rfl, fun u hu => hu.2 hu.1.symm⟩
      · rintro (⟨heq, -⟩ | ⟨rfl, -⟩)
        · exact heq
        · rfl
    · constructor
      · rintro rfl
        exact Or.inl ⟨rfl, hnone⟩
      · rintro (⟨heq, -⟩ | ⟨-, hnever⟩)
        · exact heq
        · exact (hnever c.current ⟨rfl, hnone⟩).elim
  · exact Nat.lt_succ_of_le (hc.starts_le t ht)

/-- After any calls a new coordinator answers what the history of these calls dictates; and
whatever the capacities of the traces, it gives the same answers if the trace is never dropped. -/
theorem gating_refines_history (capacity : Nat) (calls : List Call) :
    ((withCapacity capacity).after calls).Obeys ((withCapacity capacity).history calls) ∧
      ∀ other,
        ((withCapacity capacity).history calls).filter (· ≠ .cleared) =
            (withCapacity other).history (calls.filter (· ≠ .clearTrace)) ∧
          ((withCapacity capacity).after calls).gate =
            ((withCapacity other).after (calls.filter (· ≠ .clearTrace))).gate := by
  constructor
  · simpa using obeys_of_reflects ((Reflects.new capacity).after calls)
  · intro other
    have hgate : (withCapacity capacity).gate = (withCapacity other).gate := rfl
    exact history_filter_clearTrace hgate calls

end Coordinator

end Poll
end PanelForms

import PanelForms.Proofs.Backend.Script
import PanelForms.Proofs.Options.Rounds

/-!
# Fetching computed options

The options of a computed field are collected in rounds of asking.  They are taken all together or
not at all: the answer that decides gives one option for every item of its list, or an error of its
own kind.  A script that ends the computation at all ends it within its own length, so the rounds
that a fetch allows are enough.

Main results:

- Definitions `OptionList.Collects` and `OptionList.Fetches`: what collecting the options of a
  computation comes to, and what fetching them from a scripted backend comes to.
- Theorem `OptionList.decides_le`: a script that ends the computation ends it in time.
- Theorem `OptionList.fetch_all_or_nothing`: what is asked, and what comes of it.
-/

namespace PanelForms
namespace OptionList

open Attempts WorkEvent

/-! ## Enough rounds -/

section enough

variable {σ : Type} {policy : RetryPolicy} {call : σ → Except ApiError Json × σ} {s : σ}

/-- More rounds change nothing once there is a result. -/
theorem await_of_le {rounds more : Nat} {signal : StopSignal}
    (h : (await policy call rounds signal s).result.isSome) (hle : rounds ≤ more) :
    await policy call more signal s = await policy call rounds signal s := by
  induction rounds generalizing more signal s with
  | zero => cases h
  | succ rounds ih =>
    obtain ⟨more, rfl⟩ : ∃ m, more = m + 1 := ⟨more - 1, by omega⟩
    rw [await_succ] at h ⊢
    rw [await_succ]
    dsimp only at h ⊢
    split
    · rfl
    · next hgoes =>
      rw [if_neg hgoes] at h
      exact ih h (by omega)

/-- The looks of a log are taken from the looks that a signal still has. -/
theorem past_after {μ : Type} {m : Nat} {log : List (WorkEvent μ)} {next : StopSignal}
    (h : (StopSignal.after m).past log = some next) :
    ∃ left, next = .after left ∧ left + (looks log).length = m := by
  induction log generalizing m with
  | nil =>
    cases h
    exact ⟨m, rfl, rfl⟩
  | cons event rest ih =>
    cases event with
    | look fired =>
      cases m with
      | zero => cases h
      | succ m =>
        obtain ⟨left, hnext, hleft⟩ := ih (m := m) h
        exact ⟨left, hnext, by rw [looks_look, List.length_cons]; omega⟩
    | call attempt => exact ih (m := m) h
    | send message => exact ih (m := m) h

/-- A round looks at its signal. -/
theorem looks_recordRound_pos (s : σ) :
    0 < (looks (recordRound policy call .never s).log).length := by
  obtain ⟨rest, hlog⟩ : ∃ rest, (policy.record Empty call .never s).log = .look false :: rest :=
    exists_log_loop_never Empty policy.attempts call 0 s
  rw [recordRound, Recorded.after, hlog]
  exact Nat.succ_pos _

/-- A signal that fires leaves no more rounds than it has looks. -/
theorem isSome_record_of_fires {m rounds : Nat} (h : m < rounds) :
    (record policy call rounds (.after m) s).outcome.result.isSome := by
  induction rounds generalizing m s with
  | zero => omega
  | succ rounds ih =>
    rw [record]
    split
    · assumption
    · next hgoes =>
      have hcut : CutRounds (.after m) (recordRound policy call .never s)
        (recordRound policy call (.after m) s) := cut_recordRound (.after m) s
      cases hpast : (StopSignal.after m).past (recordRound policy call .never s).log with
      | none =>
        rw [hcut.stopped hpast] at hgoes
        exact absurd rfl hgoes
      | some next =>
        obtain ⟨left, rfl, hleft⟩ := past_after hpast
        have hlook : 0 < (looks (recordRound policy call .never s).log).length :=
          looks_recordRound_pos s
        rw [hcut.kept _ hpast]
        exact ih (by omega)

end enough

/-! ## A script ends the computation in time -/

section script

variable {policy : RetryPolicy}

/-- Rounds of a call that goes as another one go as the rounds of that one. -/
theorem afterRounds_map {σ τ : Type} {call : σ → Except ApiError Json × σ}
    {image : τ → Except ApiError Json × τ} {f : σ → τ}
    (himage : ∀ s, image (f s) = ((call s).1, f (call s).2)) (n : Nat) (s : σ) :
    afterRounds policy image n (f s) = f (afterRounds policy call n s) := by
  induction n generalizing s with
  | zero => rfl
  | succ n ih =>
    rw [afterRounds, afterRounds, (RetryPolicy.run_map himage policy .never s).2]
    exact ih _

/-- Answers do not depend on how the states of the backend are represented. -/
theorem answer_map {σ τ : Type} {call : σ → Except ApiError Json × σ}
    {image : τ → Except ApiError Json × τ} {f : σ → τ}
    (himage : ∀ s, image (f s) = ((call s).1, f (call s).2)) (n : Nat) (s : σ) :
    answer policy image (f s) n = answer policy call s n := by
  rw [answer, answer, afterRounds_map himage]
  exact (RetryPolicy.run_map himage policy .never _).1

variable {request : Request} {replies : List Reply}

/-- Every round uses a reply up until one is left. -/
theorem length_afterRounds_le (n : Nat) (replies : List Reply) :
    (afterRounds policy (Script.call request) n replies).length ≤
      max 1 (replies.length - n) := by
  induction n with
  | zero => rw [afterRounds]; omega
  | succ n ih =>
    have hround := rounded policy (Script.call request) replies n
    have hpos := hround.endsAt.pos
    have hcalls : (stateAfter (Script.call request) (callsIn policy (Script.call request) replies n)
        (afterRounds policy (Script.call request) n replies)).length ≤
          max 1 ((afterRounds policy (Script.call request) n replies).length -
            callsIn policy (Script.call request) replies n) := Script.length_stateAfter_le _ _
    rw [afterRounds_succ, hround.next_eq]
    omega

/-- A script of one reply gives one and the same answer. -/
theorem answer_of_length_le_one (h : replies.length ≤ 1) (n : Nat) :
    answer policy (Script.call request) replies n =
      answer policy (Script.call request) replies 0 := by
  have hstays : afterRounds policy (Script.call request) n replies = replies := by
    induction n with
    | zero => rfl
    | succ n ih =>
      rw [afterRounds_succ, (rounded policy (Script.call request) replies n).next_eq, ih]
      exact Script.stateAfter_of_length_le_one h _
  rw [answer, hstays]
  rfl

/-- A script that ends the computation does so before it is repeated. -/
theorem decides_script_le {n : Nat} (h : Decides policy (Script.call request) replies n) :
    n ≤ replies.length - 1 := by
  by_contra hlate
  have hshort : (afterRounds policy (Script.call request) (replies.length - 1) replies).length ≤
      1 := by
    have hle : (afterRounds policy (Script.call request) (replies.length - 1) replies).length ≤
      max 1 (replies.length - (replies.length - 1)) := length_afterRounds_le _ _
    omega
  -- From there on the script repeats an answer that told to wait.
  have hsame : answer policy (Script.call request) replies n =
      answer policy (Script.call request) replies (replies.length - 1) := by
    have hn : n = (replies.length - 1) + (n - (replies.length - 1)) := by omega
    rw [hn, answer_add, answer_of_length_le_one hshort]
    rfl
  apply h.ends
  rw [hsame]
  exact h.waiting (replies.length - 1) (by omega)

/-- A backend that ends the computation does so within the length of its script. -/
theorem decides_le {b : Backend} {n : Nat} (h : Decides policy (Call.json some request) b n) :
    n ≤ b.scriptLength := by
  have hlength := Script.length_replies_le b (request.method, request.path)
  have hanswer : ∀ i, answer policy (Script.call request)
      (b.replies (request.method, request.path)) i = answer policy (Call.json some request) b i :=
    fun i => answer_map (f := fun b : Backend => b.replies (request.method, request.path))
      (Script.call_replies request) i b
  have hdecides : Decides policy (Script.call request)
      (b.replies (request.method, request.path)) n := by
    constructor
    · intro i hi
      rw [hanswer]
      exact h.waiting i hi
    · rw [hanswer]
      exact h.ends
  have hle := decides_script_le hdecides
  omega

end script

/-! ## Options of a computation -/

section options

variable {σ : Type} (policy : RetryPolicy) (call : σ → Except ApiError Json × σ) (name : String)
  (s : σ)

/-- What collecting the options of a computation comes to.  If nobody stops it, calls are made
round by round up to the first answer that does not tell to wait, and none after it, and the options
are what this answer comes to; without such an answer there is no end.  A signal that a look finds
fired makes the whole a cancelled one, with nothing done after that look, and a signal that no look
finds fired changes nothing. -/
structure Collects : Prop where
  rounds : ∀ n, EndsAt (max policy.maxAttempts 1) call (afterRounds policy call n s)
    (callsIn policy call s n)
  decided : ∀ n, Decides policy call s n → ∃ result,
    ComesTo name (answer policy call s n) result ∧
      ∀ rounds, n < rounds →
        collect policy call name rounds .never s =
            (some result, afterRounds policy call (n + 1) s) ∧
          calls (record policy call rounds .never s).log =
            (List.range (n + 1)).flatMap fun i => List.range' 1 (callsIn policy call s i)
  undecided : ∀ rounds, (∀ n < rounds, ¬ Decides policy call s n) →
    (collect policy call name rounds .never s).1 = none
  recorded : ∀ rounds signal, (record policy call rounds signal s).outcome =
    await policy call rounds signal s
  cancelled_iff : ∀ rounds signal,
    (collect policy call name rounds signal s).1 = some (.error (.poll .cancelled)) ↔
      .look true ∈ (record policy call rounds signal s).log
  unfired : ∀ rounds signal, .look true ∉ (record policy call rounds signal s).log →
    collect policy call name rounds signal s = collect policy call name rounds .never s ∧
      (record policy call rounds signal s).log = (record policy call rounds .never s).log
  fired : ∀ rounds signal before after,
    (record policy call rounds signal s).log = before ++ .look true :: after →
      after = [] ∧ ∃ m, signal = .after m ∧ looks before = List.replicate m false
  fires : ∀ m rounds, m < rounds → (collect policy call name rounds (.after m) s).1.isSome

/-- Without its log, the record of the rounds is what the program collects. -/
theorem collect_eq (rounds : Nat) (signal : StopSignal) :
    collect policy call name rounds signal s =
      ((record policy call rounds signal s).outcome.result.map (ofEnd name),
        (record policy call rounds signal s).outcome.state) := by
  rw [collect, outcome_record]

variable {policy call s}

/-- The answer that decides ends the computation. -/
theorem Decides.exists_end {n : Nat} (h : Decides policy call s n) :
    ∃ last, endOf (answer policy call s n) = some last := by
  rw [← Option.ne_none_iff_exists', ne_eq, endOf_answer_eq_none_iff]
  exact h.ends

/-- A computation that nobody stops comes to what the deciding answer comes to. -/
theorem Decides.collect_eq {n : Nat} (h : Decides policy call s n) :
    ∃ result, ComesTo name (answer policy call s n) result ∧
      ∀ rounds, n < rounds → collect policy call name rounds .never s =
        (some result, afterRounds policy call (n + 1) s) := by
  obtain ⟨last, hlast⟩ := h.exists_end
  refine ⟨ofEnd name last, comesTo_ofEnd (answer_ne_stopped policy call s n) hlast, ?_⟩
  intro rounds hn
  rw [OptionList.collect_eq, outcome_record_of_decides h hn, hlast]
  rfl

/-- A computation that no answer decides in so many rounds gives nothing. -/
theorem collect_of_undecided {rounds : Nat} (h : ∀ n < rounds, ¬ Decides policy call s n) :
    (collect policy call name rounds .never s).1 = none := by
  rw [collect_eq, outcome_record_of_undecided h]
  rfl

/-- A computation that nobody stops is not cancelled. -/
theorem collect_never_ne_cancelled (rounds : Nat) :
    (collect policy call name rounds .never s).1 ≠ some (.error (.poll .cancelled)) := by
  by_cases hdecides : ∃ n < rounds, Decides policy call s n
  · obtain ⟨n, hn, h⟩ := hdecides
    obtain ⟨result, hcomes, hcollect⟩ := h.collect_eq name
    rw [hcollect rounds hn]
    intro hcancelled
    exact not_faulty_cancelled _ ((hcomes.poll_iff .cancelled).mp (Option.some.inj hcancelled))
  · rw [collect_of_undecided name fun n hn h => hdecides ⟨n, hn, h⟩]
    nofun

/-- The signal fires while the rounds go on, and cancels them. -/
theorem collect_of_past_none {rounds : Nat} {signal : StopSignal}
    (h : signal.past (record policy call rounds .never s).log = none) :
    (collect policy call name rounds signal s).1 = some (.error (.poll .cancelled)) := by
  rw [collect_eq, (cut_record rounds signal s).stopped h]
  rfl

/-- The signal does not fire while the rounds go on, and leaves them as they are. -/
theorem collect_of_past {rounds : Nat} {signal next : StopSignal}
    (h : signal.past (record policy call rounds .never s).log = some next) :
    collect policy call name rounds signal s = collect policy call name rounds .never s ∧
      (record policy call rounds signal s).log = (record policy call rounds .never s).log := by
  have hcut : CutRounds signal (record policy call rounds .never s)
    (record policy call rounds signal s) := cut_record rounds signal s
  constructor
  · rw [collect_eq, hcut.kept next h, collect_eq]
  · rw [hcut.log, StopSignal.cut_of_past (unfired_record rounds s) h]

/-- A look finds the signal fired exactly if the signal does not outlast the looks of the rounds
that are never stopped. -/
theorem mem_record_iff {rounds : Nat} {signal : StopSignal} :
    .look true ∈ (record policy call rounds signal s).log ↔
      signal.past (record policy call rounds .never s).log = none := by
  rw [(cut_record rounds signal s).log, StopSignal.mem_cut_iff (unfired_record rounds s)]

/-- What is collected follows from the answers and the signal, by recording the rounds and cutting
the record. -/
theorem collects : Collects policy call name s where
  rounds n := (rounded policy call s n).endsAt
  decided n h := by
    obtain ⟨result, hcomes, hcollect⟩ := h.collect_eq name
    exact ⟨result, hcomes, fun rounds hn => ⟨hcollect rounds hn, calls_record_of_decides h hn⟩⟩
  undecided rounds h := collect_of_undecided name h
  recorded rounds signal := outcome_record policy call signal s rounds
  cancelled_iff rounds signal := by
    rw [mem_record_iff]
    cases hpast : signal.past (record policy call rounds .never s).log with
    | none => exact iff_of_true (collect_of_past_none name hpast) rfl
    | some next =>
      rw [(collect_of_past name hpast).1]
      exact iff_of_false (collect_never_ne_cancelled name rounds) (by simp)
  unfired rounds signal h := by
    rw [mem_record_iff] at h
    obtain ⟨next, hpast⟩ := Option.ne_none_iff_exists'.mp h
    exact collect_of_past name hpast
  fired rounds signal before after h := by
    have hpast : signal.past (record policy call rounds .never s).log = none := by
      rw [← mem_record_iff, h]
      simp
    rw [(cut_record rounds signal s).log] at h
    have hafter : after = [] := StopSignal.nil_of_cut_eq (unfired_record rounds s) h
    obtain ⟨m, hsignal, hlooks⟩ := StopSignal.exists_after_of_past_none hpast
    refine ⟨hafter, m, hsignal, ?_⟩
    rw [h, hafter, looks, List.filterMap_append] at hlooks
    exact List.append_cancel_right hlooks
  fires m rounds h := by
    rw [collect_eq, Option.isSome_map]
    exact isSome_record_of_fires h

end options

/-! ## Options of a computed field -/

/-- What fetching the options of a computed field from a backend comes to: what collecting them
in any number of rounds comes to.  Only a computation that no answer decides has no end, unless it
is stopped; and each call sends one and the same request. -/
structure Fetches (policy : RetryPolicy) (client : Client) (source : ComputeSource) (id : String)
    (b : Backend) : Prop where
  adequate : ∀ rounds signal,
    (collect policy (client.statefulCompute source.method id) source.resultName rounds signal
      b).1.isSome →
    fetch client policy source id signal b =
      collect policy (client.statefulCompute source.method id) source.resultName rounds signal b
  endless_iff : ∀ signal, (fetch client policy source id signal b).1 = none ↔
    signal = .never ∧ ∀ n, ¬ Decides policy (client.statefulCompute source.method id) b n
  requests : ∀ rounds signal,
    (collect policy (client.statefulCompute source.method id) source.resultName rounds signal
      b).2.requests =
    b.requests ++ List.replicate
      (calls (record policy (client.statefulCompute source.method id) rounds signal b).log).length
      (.post "/stateful-compute" (.object [("method", .string source.method),
        ("simulationId", .string id), ("simulationType", .string client.appName)]))

section fetches

variable {policy : RetryPolicy} {client : Client} {source : ComputeSource} {id : String}
  {b : Backend}

/-- A computation that ends at all ends within the rounds of a fetch. -/
theorem fetch_isSome {signal : StopSignal} (h : signal ≠ .never ∨
    ∃ n, Decides policy (client.statefulCompute source.method id) b n) :
    (fetch client policy source id signal b).1.isSome := by
  have hcollects : Collects policy (client.statefulCompute source.method id) source.resultName b :=
    collects source.resultName
  obtain ⟨looksLeft⟩ := signal
  cases looksLeft with
  | some m =>
    rw [fetch]
    exact hcollects.fires m _ (by rw [Option.getD_some]; omega)
  | none =>
    obtain ⟨n, hn⟩ := h.resolve_left (fun hne => hne rfl)
    obtain ⟨result, -, hcollect⟩ := hcollects.decided n hn
    have hle : n ≤ b.scriptLength := decides_le hn
    have hrounds := (hcollect (b.scriptLength + 2 + 0) (by omega)).1
    rw [fetch]
    exact Option.isSome_of_mem (congrArg Prod.fst hrounds)

/-- What the program fetches is what is collected from its backend, with rounds enough for its
script. -/
theorem fetches (policy : RetryPolicy) (client : Client) (source : ComputeSource) (id : String)
    (b : Backend) : Fetches policy client source id b where
  adequate rounds signal h := by
    have hends : signal ≠ .never ∨
        ∃ n, Decides policy (client.statefulCompute source.method id) b n := by
      by_contra hendless
      obtain ⟨hsignal, hnone⟩ := not_or.mp hendless
      rw [not_not.mp hsignal, collect_of_undecided _ fun n _ hn => hnone ⟨n, hn⟩] at h
      cases h
    have hfetch := fetch_isSome hends
    simp only [fetch, collect, Option.isSome_map] at h hfetch ⊢
    rcases Nat.le_total rounds (b.scriptLength + 2 + signal.looksLeft.getD 0) with hle | hle
    · rw [await_of_le h hle]
    · rw [await_of_le hfetch hle]
  endless_iff signal := by
    constructor
    · intro h
      have hnot := mt fetch_isSome (by rw [h]; nofun)
      obtain ⟨hsignal, hnone⟩ := not_or.mp hnot
      exact ⟨not_not.mp hsignal, not_exists.mp hnone⟩
    · rintro ⟨rfl, h⟩
      exact collect_of_undecided _ fun n _ => h n
  requests rounds signal := by
    rw [collect_eq, state_record]
    exact (Call.sends_json some _).requests_stateAfter _ b

end fetches

/-- Options are fetched completely or not at all: in whatever way a backend is asked, and for every
scripted backend. -/
theorem fetch_all_or_nothing (policy : RetryPolicy) :
    (∀ {σ : Type} (call : σ → Except ApiError Json × σ) (name : String) (s : σ),
      Collects policy call name s) ∧
    ∀ (client : Client) (source : ComputeSource) (id : String) (b : Backend),
      Fetches policy client source id b :=
  ⟨fun _ name _ => collects name, fetches policy⟩

end OptionList
end PanelForms

import Mathlib.Data.List.Forall2
import PanelForms.ComputedOptions
import PanelForms.Proofs.Poll.Answers

/-!
# Reading computed options

A response of the backend ends a computation with a result, ends it badly, or tells to ask again.
A result holds options under a name, or it is refused as a whole.  This module says for each of
these what the response has to look like.

Main results:

- Definition `OptionList.Reads`: the items that are usable, and the option of each.
- Definitions `OptionList.Waits`, `OptionList.IsFinal` and `OptionList.Faulty`: the three kinds of
  answers.
- Theorem `OptionList.ofList?_eq_some_iff`: a list is read exactly if each of its items is usable,
  one option for each in the order of the items.
- Theorem `OptionList.comesTo_ofEnd`: what an answer that does not tell to wait comes to.
-/

namespace PanelForms
namespace OptionList

/-! ## Items -/

/-- The member that a record has under the first of two names, or else under the second. -/
inductive Takes (first second : String) (members : Entries Json) : Json → Prop where
  | first {v : Json} (h : Entries.get? first members = some v) : Takes first second members v
  | second {v : Json} (hnone : Entries.get? first members = none)
      (h : Entries.get? second members = some v) : Takes first second members v

/-- The label of a record: its display name or name, if that is a scalar, and else its value. -/
inductive Shown (members : Entries Json) (value : String) : String → Prop where
  | named {v : Json} {label : String} (h : Takes "displayName" "name" members v)
      (hlabel : v.scalarText? = some label) : Shown members value label
  | unnamed (h : ∀ v, Takes "displayName" "name" members v → v.scalarText? = none) :
      Shown members value value

/-- A usable item and its option: a scalar, a pair of scalars, or a record with a scalar value or
simulation id. -/
inductive Reads : Json → Choice → Prop where
  | scalar {v : Json} {text : String} (h : v.scalarText? = some text) : Reads v ⟨text, text⟩
  | pair {first second : Json} {value label : String} (hvalue : first.scalarText? = some value)
      (hlabel : second.scalarText? = some label) : Reads (.array [first, second]) ⟨value, label⟩
  | record {members : Entries Json} {v : Json} {value label : String}
      (hitem : Takes "value" "simulationId" members v) (hvalue : v.scalarText? = some value)
      (hlabel : Shown members value label) : Reads (.object members) ⟨value, label⟩

/-- A member with two names is taken by its first name, and by the other one if that is missing. -/
theorem takes_iff {first second : String} {members : Entries Json} {v : Json} :
    Takes first second members v ↔
      (Entries.get? first members <|> Entries.get? second members) = some v := by
  cases hfirst : Entries.get? first members with
  | none =>
    constructor
    · rintro (h | ⟨-, h⟩)
      · rw [hfirst] at h
        cases h
      · exact h
    · exact fun h => .second hfirst h
  | some w =>
    constructor
    · rintro (h | ⟨hnone, -⟩)
      · rwa [hfirst] at h
      · rw [hfirst] at hnone
        cases hnone
    · exact fun h => .first (hfirst.trans h)

/-- The label is the text of a member for it, or the value. -/
theorem shown_iff {members : Entries Json} {value label : String} :
    Shown members value label ↔
      (((Entries.get? "displayName" members <|> Entries.get? "name" members).bind
        Json.scalarText?).getD value) = label := by
  cases hnamed : (Entries.get? "displayName" members <|> Entries.get? "name" members).bind
      Json.scalarText? with
  | none =>
    rw [Option.bind_eq_none_iff] at hnamed
    constructor
    · rintro (⟨h, hlabel⟩ | -)
      · rw [hnamed _ (takes_iff.mp h)] at hlabel
        cases hlabel
      · rfl
    · rintro rfl
      exact .unnamed fun v h => hnamed v (takes_iff.mp h)
  | some text =>
    obtain ⟨v, hv, htext⟩ := Option.bind_eq_some_iff.mp hnamed
    constructor
    · rintro (⟨h, hlabel⟩ | h)
      · rw [takes_iff, hv] at h
        cases h
        rw [htext] at hlabel
        exact Option.some.inj hlabel
      · rw [h v (takes_iff.mpr hv)] at htext
        cases htext
    · rintro rfl
      exact .named (takes_iff.mpr hv) htext

/-- The reader of objects accepts exactly the usable ones. -/
theorem ofRecord?_eq_some_iff {members : Entries Json} {option : Choice} :
    ofRecord? members = some option ↔ Reads (.object members) option := by
  unfold ofRecord?
  constructor
  · intro h
    obtain ⟨v, hitem, h⟩ := Option.bind_eq_some_iff.mp h
    obtain ⟨value, hvalue, h⟩ := Option.bind_eq_some_iff.mp h
    cases h
    exact .record (takes_iff.mpr hitem) hvalue (shown_iff.mpr rfl)
  · rintro (hscalar | - | ⟨hitem, hvalue, hlabel⟩)
    · cases hscalar
    · rw [takes_iff.mp hitem]
      show (Json.scalarText? _).bind _ = _
      rw [hvalue, ← shown_iff.mp hlabel]
      rfl

/-- The reader of items accepts exactly the usable ones. -/
theorem ofItem?_eq_some_iff {v : Json} {option : Choice} :
    ofItem? v = some option ↔ Reads v option := by
  have hscalar : ∀ v : Json, (v.scalarText?.map fun text => (⟨text, text⟩ : Choice)) = some option ↔
      ∃ text, v.scalarText? = some text ∧ option = ⟨text, text⟩ := by
    intro v
    rw [Option.map_eq_some_iff]
    simp only [eq_comm]
  unfold ofItem?
  split
  · next first second =>
    constructor
    · intro h
      obtain ⟨value, hvalue, h⟩ := Option.bind_eq_some_iff.mp h
      obtain ⟨label, hlabel, h⟩ := Option.bind_eq_some_iff.mp h
      cases h
      exact .pair hvalue hlabel
    · rintro (hnone | ⟨hvalue, hlabel⟩ | -)
      · cases hnone
      · rw [hvalue, hlabel]
        rfl
  · next items hpair =>
    constructor
    · nofun
    · rintro (hnone | - | -)
      · cases hnone
      · exact absurd rfl (hpair _ _)
  · exact ofRecord?_eq_some_iff
  · next harray hobject =>
    rw [hscalar]
    constructor
    · rintro ⟨text, htext, rfl⟩
      exact .scalar htext
    · rintro (htext | - | -)
      · exact ⟨_, htext, rfl⟩
      · exact absurd rfl (harray _)
      · exact absurd rfl (hobject _)

/-- An item is unusable if it has no option. -/
theorem ofItem?_eq_none_iff {v : Json} : ofItem? v = none ↔ ∀ option, ¬ Reads v option := by
  simp only [← ofItem?_eq_some_iff, Option.eq_none_iff_forall_ne_some, ne_eq]

/-! ## Lists -/

/-- A traversal that goes through gives one result for each element, in order. -/
theorem mapM_eq_some_iff {α β : Type} {f : α → Option β} {as : List α} {bs : List β} :
    as.mapM f = some bs ↔ List.Forall₂ (fun a b => f a = some b) as bs := by
  induction as generalizing bs with
  | nil => simp [eq_comm]
  | cons a rest ih =>
    simp only [List.mapM_cons, Option.bind_eq_bind, Option.bind_eq_some_iff, ih,
      List.forall₂_cons_left_iff, pure, Option.some.injEq]
    constructor
    · rintro ⟨b, hb, others, hothers, rfl⟩
      exact ⟨b, others, hb, hothers, rfl⟩
    · rintro ⟨b, others, hb, hothers, rfl⟩
      exact ⟨b, hb, others, hothers, rfl⟩

/-- A traversal fails exactly if it fails at some element. -/
theorem mapM_eq_none_iff {α β : Type} {f : α → Option β} {as : List α} :
    as.mapM f = none ↔ ∃ a ∈ as, f a = none := by
  induction as with
  | nil => simp
  | cons a rest ih =>
    cases ha : f a with
    | none => simp [List.mapM_cons, ha]
    | some b =>
      cases hrest : rest.mapM f with
      | none => simpa [List.mapM_cons, ha, hrest] using ih.mp hrest
      | some others => simpa [List.mapM_cons, ha, hrest] using ih

/-- A value lists options: it is a list of usable items, one option for each in the order of the
items. -/
def Lists (v : Json) (options : List Choice) : Prop :=
  ∃ items, v = .array items ∧ List.Forall₂ Reads items options

/-- A value is refused as a whole: it is no list, or one of its items is unusable. -/
def Refused (v : Json) : Prop :=
  ∀ items, v = .array items → ∃ item ∈ items, ∀ option, ¬ Reads item option

/-- Only an array has items. -/
theorem items?_eq_some_iff {v : Json} {items : List Json} :
    v.items? = some items ↔ v = .array items := by
  cases v <;> simp [Json.items?]

/-- A list is read exactly if each of its items is usable. -/
theorem ofList?_eq_some_iff {v : Json} {options : List Choice} :
    ofList? v = some options ↔ Lists v options := by
  simp only [ofList?, Option.bind_eq_some_iff, items?_eq_some_iff, mapM_eq_some_iff,
    ofItem?_eq_some_iff, Lists]

/-- A value is not read exactly if it is refused as a whole. -/
theorem ofList?_eq_none_iff {v : Json} : ofList? v = none ↔ Refused v := by
  simp only [ofList?, Option.bind_eq_none_iff, items?_eq_some_iff, mapM_eq_none_iff,
    ofItem?_eq_none_iff, Refused]

/-! ## Answers -/

/-- A response that tells to ask again. -/
def Waits (response : Json) : Prop :=
  Poll.InState response "pending" ∨ Poll.InState response "running"

/-- A response that is the result: one without a state, or a completed one. -/
def IsFinal (response : Json) : Prop :=
  response.member? "state" = none ∨ Poll.InState response "completed"

/-- The answers that end a computation badly, and the fault of each: there is no response after all
attempts, or the response has a state and reports the fault by it. -/
inductive Faulty : Except RetryError Json → Poll.Fault → Prop where
  | givenUp {attempts : Nat} {source : ApiError} :
      Faulty (.error (.failed attempts source)) (.transport attempts source)
  | reported {response : Json} {fault : Poll.Fault} (hstate : response.member? "state" ≠ none)
      (hreports : Poll.Reports response fault) : Faulty (.ok response) fault

/-- Only a stop cancels. -/
theorem not_faulty_cancelled (answer : Except RetryError Json) : ¬ Faulty answer .cancelled := by
  intro h
  cases h with
  | reported _ hreports => exact hreports.ne_cancelled rfl

/-- A response without a state is the result itself. -/
theorem outcome_of_stateless {response : Json} (h : response.member? "state" = none) :
    outcome response = .ok (.completed response) := by
  simp [outcome, h]

/-- A response with a state is read as a poll response. -/
theorem outcome_of_stated {response : Json} (h : response.member? "state" ≠ none) :
    outcome response = Poll.classify response := by
  simp [outcome, h]

/-- A final response is read as the result. -/
theorem outcome_of_isFinal {response : Json} (h : IsFinal response) :
    outcome response = .ok (.completed response) := by
  rcases h with hnone | hstate
  · exact outcome_of_stateless hnone
  · rw [outcome_of_stated hstate.member?_ne_none]
    exact Poll.classify_eq_iff.mpr (.completed hstate)

/-- A response that waits is read as one of a run that is not over. -/
theorem outcome_of_waits {response : Json} (h : Waits response) :
    outcome response = .ok .pending ∨ outcome response = .ok (.running response) := by
  rcases h with hstate | hstate
  all_goals rw [outcome_of_stated hstate.member?_ne_none]
  · exact .inl (Poll.classify_eq_iff.mpr (.pending hstate))
  · exact .inr (Poll.classify_eq_iff.mpr (.running hstate))

/-- A faulty response is read as its fault. -/
theorem outcome_of_faulty {response : Json} {fault : Poll.Fault}
    (h : Faulty (.ok response) fault) : outcome response = .error fault := by
  cases h with
  | reported hstate hreports =>
    rw [outcome_of_stated hstate]
    exact hreports.classify_eq

/-- Every response is of one of the three kinds. -/
theorem waits_or_isFinal_or_faulty (response : Json) :
    Waits response ∨ IsFinal response ∨ ∃ fault, Faulty (.ok response) fault := by
  by_cases hnone : response.member? "state" = none
  · exact .inr (.inl (.inl hnone))
  · obtain ⟨answer, hsays⟩ : ∃ answer, Poll.Says response answer := ⟨_, Poll.says_classify response⟩
    cases hsays with
    | pending hstate => exact .inl (.inl hstate)
    | running hstate => exact .inl (.inr hstate)
    | completed hstate => exact .inr (.inl (.inr hstate))
    | fault hreports => exact .inr (.inr ⟨_, .reported hnone hreports⟩)

/-- How a computation ends with an answer, if it does. -/
def endOf : Except RetryError Json → Option (Except Poll.Fault Json)
  | .error e => some (.error (.ofRetry e))
  | .ok response =>
    match outcome response with
    | .error fault => some (.error fault)
    | .ok (.completed data) => some (.ok data)
    | .ok _ => none

variable {answer : Except RetryError Json}

theorem endOf_of_waits {response : Json} (h : Waits response) : endOf (.ok response) = none := by
  rcases outcome_of_waits h with houtcome | houtcome <;> simp [endOf, houtcome]

theorem endOf_of_isFinal {response : Json} (h : IsFinal response) :
    endOf (.ok response) = some (.ok response) := by
  simp [endOf, outcome_of_isFinal h]

theorem endOf_of_faulty {fault : Poll.Fault} (h : Faulty answer fault) :
    endOf answer = some (.error fault) := by
  cases answer with
  | error e =>
    cases h
    rfl
  | ok response => simp [endOf, outcome_of_faulty h]

/-- An answer that was not given up for a stop tells to wait, is the result, or is faulty. -/
theorem waits_or_ends (hanswer : answer ≠ .error .stopped) :
    (∃ response, answer = .ok response ∧ Waits response) ∨
      (∃ response, answer = .ok response ∧ IsFinal response) ∨ ∃ fault, Faulty answer fault := by
  match answer, hanswer with
  | .error (.failed attempts source), _ => exact .inr (.inr ⟨_, .givenUp⟩)
  | .ok response, _ =>
    rcases waits_or_isFinal_or_faulty response with h | h | h
    · exact .inl ⟨response, rfl, h⟩
    · exact .inr (.inl ⟨response, rfl, h⟩)
    · exact .inr (.inr h)

/-- An answer ends nothing exactly if it is a response that waits. -/
theorem endOf_eq_none_iff (hanswer : answer ≠ .error .stopped) :
    endOf answer = none ↔ ∃ response, answer = .ok response ∧ Waits response := by
  constructor
  · intro hnone
    rcases waits_or_ends hanswer with h | ⟨response, rfl, h⟩ | ⟨fault, h⟩
    · exact h
    · rw [endOf_of_isFinal h] at hnone
      cases hnone
    · rw [endOf_of_faulty h] at hnone
      cases hnone
  · rintro ⟨response, rfl, h⟩
    exact endOf_of_waits h

/-- An answer ends the computation with a result exactly if that is a final response. -/
theorem endOf_eq_ok_iff {data : Json} (hanswer : answer ≠ .error .stopped) :
    endOf answer = some (.ok data) ↔ answer = .ok data ∧ IsFinal data := by
  constructor
  · intro hend
    rcases waits_or_ends hanswer with ⟨response, rfl, h⟩ | ⟨response, rfl, h⟩ | ⟨fault, h⟩
    · rw [endOf_of_waits h] at hend
      cases hend
    · rw [endOf_of_isFinal h] at hend
      cases hend
      exact ⟨rfl, h⟩
    · rw [endOf_of_faulty h] at hend
      cases hend
  · rintro ⟨rfl, h⟩
    exact endOf_of_isFinal h

/-- An answer ends the computation with a fault exactly if it is faulty in that way. -/
theorem endOf_eq_error_iff {fault : Poll.Fault} (hanswer : answer ≠ .error .stopped) :
    endOf answer = some (.error fault) ↔ Faulty answer fault := by
  constructor
  · intro hend
    rcases waits_or_ends hanswer with ⟨response, rfl, h⟩ | ⟨response, rfl, h⟩ | ⟨other, h⟩
    · rw [endOf_of_waits h] at hend
      cases hend
    · rw [endOf_of_isFinal h] at hend
      cases hend
    · rw [endOf_of_faulty h] at hend
      cases hend
      exact h
  · exact endOf_of_faulty

/-! ## What an answer comes to -/

/-- What the last answer of a computation comes to: the options of a result whose member under the
name lists them, and an error of its own kind for everything else. -/
structure ComesTo (name : String) (answer : Except RetryError Json)
    (result : Except OptionError (List Choice)) : Prop where
  ok_iff : ∀ options, result = .ok options ↔
    ∃ response v, answer = .ok response ∧ IsFinal response ∧ response.member? name = some v ∧
      Lists v options
  missing_iff : ∀ key, result = .error (.missingResult key) ↔
    key = name ∧ ∃ response, answer = .ok response ∧ IsFinal response ∧
      response.member? name = none
  bad_iff : ∀ key v, result = .error (.badOptions key v) ↔
    key = name ∧ ∃ response, answer = .ok response ∧ IsFinal response ∧
      response.member? name = some v ∧ Refused v
  poll_iff : ∀ fault, result = .error (.poll fault) ↔ Faulty answer fault

/-- A result gives options exactly if its member under the name lists them. -/
theorem ofResult_eq_ok_iff {name : String} {result : Json} {options : List Choice} :
    ofResult name result = .ok options ↔
      ∃ v, result.member? name = some v ∧ Lists v options := by
  unfold ofResult
  cases result.member? name with
  | none => simp
  | some v =>
    simp only [Option.some.injEq, exists_eq_left', ← ofList?_eq_some_iff]
    cases ofList? v <;> simp

/-- A result gives no options if it has no member under the name, or if that member is refused. -/
theorem ofResult_eq_error_iff {name : String} {result : Json} {e : OptionError} :
    ofResult name result = .error e ↔
      (e = .missingResult name ∧ result.member? name = none) ∨
        ∃ v, e = .badOptions name v ∧ result.member? name = some v ∧ Refused v := by
  unfold ofResult
  cases result.member? name with
  | none => simp [eq_comm]
  | some v =>
    simp only [← ofList?_eq_none_iff]
    cases hlist : ofList? v <;> simp [eq_comm, hlist]

/-- An answer that ends a computation comes to what is made of that end. -/
theorem comesTo_ofEnd {name : String} {last : Except Poll.Fault Json}
    (hanswer : answer ≠ .error .stopped) (hlast : endOf answer = some last) :
    ComesTo name answer (ofEnd name last) := by
  have hfinal : ∀ response {p : Prop},
      answer = .ok response ∧ IsFinal response ∧ p ↔ last = .ok response ∧ p := by
    intro response p
    rw [← and_assoc, ← endOf_eq_ok_iff hanswer, hlast, Option.some.injEq]
  have hfaulty : ∀ fault, Faulty answer fault ↔ last = .error fault := by
    intro fault
    rw [← endOf_eq_error_iff hanswer, hlast, Option.some.injEq]
  constructor
  case ok_iff =>
    intro options
    simp only [hfinal]
    cases last <;> simp [ofEnd, ofResult_eq_ok_iff]
  case missing_iff =>
    intro key
    simp only [hfinal]
    cases last <;> simp [ofEnd, ofResult_eq_error_iff]
  case bad_iff =>
    intro key v
    simp only [hfinal]
    cases last <;> simp [ofEnd, ofResult_eq_error_iff, and_assoc]
  case poll_iff =>
    intro fault
    rw [hfaulty]
    cases last <;> simp [ofEnd, ofResult_eq_error_iff]

end OptionList
end PanelForms

import PanelForms.Proofs.Field.WireForm
import PanelForms.Proofs.Session.Submit

/-!
# Sessions that can be sent

A session is sent as a whole: every field of every record needs a wire form.  A commit checks the
active fields only but writes back all bound ones, so an edit that was taken out of the form is
written unchecked.  This module shows that such edits are the only way in which a commit can make a
session unsendable.

Main results:

- Definitions `Session.Sendable` and `Session.SendableValue`: what can be sent.
- Theorem `Session.sendable_iff`: a session can be sent exactly if each of its values can.
- Theorem `Panels.submit_sendable_iff`: a session that could be sent can still be sent after a
  commit exactly if every hidden edit of the form can be.
- Theorem `Panels.not_every_commit_sendable`: a hidden edit without wire form is committed.
-/

namespace PanelForms
namespace Session

/-! ## What can be sent -/

/-- All records have a wire form. -/
def Sendable (s : Session) : Prop :=
  ∃ wire, s.wireModels = .ok wire

/-- A value has a wire form as the value of a field. -/
def SendableValue (s : Session) (r : FieldRef) (v : Json) : Prop :=
  ∃ wire, s.encodeField r v = .ok wire

variable {s t : Session} {r : FieldRef} {v : Json}

/-- The value of a field can be sent exactly if its type encodes it. -/
theorem sendableValue_iff {d : FieldDef} (h : s.schema.field? r = some d) :
    s.SendableValue r v ↔ d.fieldType.Encodes v := by
  have hfield : s.encodeField r v = (d.fieldType.encode v).mapError fun e => ⟨r, e⟩ := by
    simp [encodeField, h]
  unfold SendableValue FieldType.Encodes
  rw [hfield]
  cases d.fieldType.encode v with
  | ok wire => exact iff_of_true ⟨wire, rfl⟩ ⟨wire, rfl⟩
  | error e =>
    refine iff_of_false ?_ ?_
    · rintro ⟨wire, hwire⟩
      cases hwire
    · rintro ⟨wire, hwire⟩
      cases hwire

/-- A value of a field that the schema does not have is sent as it is. -/
theorem sendableValue_of_unknown (h : s.schema.field? r = none) : s.SendableValue r v :=
  ⟨v, by simp [encodeField, h]⟩

/-- Null can always be sent. -/
theorem sendableValue_null (s : Session) (r : FieldRef) : s.SendableValue r .null := by
  cases h : s.schema.field? r with
  | none => exact sendableValue_of_unknown h
  | some d => exact (sendableValue_iff h).2 d.fieldType.encodes_null

/-- What can be sent depends on the schema alone. -/
theorem sendableValue_congr (h : s.schema = t.schema) :
    s.SendableValue r v ↔ t.SendableValue r v := by
  unfold SendableValue encodeField
  rw [h]

/-- The fields of a model can be sent if each of their values can. -/
theorem encodeFields_ok_iff {model : String} {fields : Entries Json} :
    (∃ wire, s.encodeFields model fields = .ok wire) ↔
      ∀ e ∈ fields, s.SendableValue ⟨model, e.1⟩ e.2 := by
  induction fields with
  | nil => simp [encodeFields]
  | cons e rest ih =>
    obtain ⟨name, v⟩ := e
    rw [List.forall_mem_cons, ← ih]
    unfold SendableValue
    rw [encodeFields]
    cases s.encodeField ⟨model, name⟩ v <;> cases s.encodeFields model rest <;>
      simp [bind, Except.bind, pure, Except.pure]

/-- The records can be sent if each of their values can. -/
theorem encodeRecords_ok_iff {models : Entries StoredModel} :
    (∃ wire, s.encodeRecords models = .ok wire) ↔
      ∀ m ∈ models, ∀ e ∈ m.2.record.entries, s.SendableValue ⟨m.1, e.1⟩ e.2 := by
  induction models with
  | nil => simp [encodeRecords]
  | cons m rest ih =>
    obtain ⟨name, stored⟩ := m
    rw [List.forall_mem_cons, ← ih, ← encodeFields_ok_iff]
    rw [encodeRecords]
    cases s.encodeFields name stored.record.entries <;> cases s.encodeRecords rest <;>
      simp [bind, Except.bind, pure, Except.pure]

/-- A session can be sent exactly if each of its values can. -/
theorem sendable_iff :
    s.Sendable ↔ ∀ r v, s.store.fieldValue? r = some v → s.SendableValue r v := by
  unfold Sendable wireModels
  rw [encodeRecords_ok_iff]
  constructor
  · rintro hall ⟨model, name⟩ v hv
    obtain ⟨record, hrecord, hfield⟩ := Option.bind_eq_some_iff.1 hv
    obtain ⟨stored, hstored, rfl⟩ := Option.map_eq_some_iff.1 hrecord
    exact hall (model, stored) ((Dict.get?_eq_some_iff _ _ _).1 hstored) (name, v)
      ((Dict.get?_eq_some_iff _ _ _).1 hfield)
  · rintro hall ⟨model, stored⟩ hm ⟨name, v⟩ he
    refine hall ⟨model, name⟩ v ?_
    have hstored : s.store.models.get? model = some stored :=
      (Dict.get?_eq_some_iff _ _ _).2 hm
    have hfield : stored.record.get? name = some v := (Dict.get?_eq_some_iff _ _ _).2 he
    simp [ModelStore.fieldValue?, ModelStore.record?, hstored, hfield]

end Session

namespace Form

variable {f : Form} {s : Session}

/-! ## Hidden edits -/

/-- A bound field holds an edit but has been taken out of the form, so that no check concerns it. -/
def HidesEdit (f : Form) (s : Session) (r : FieldRef) (v : Json) : Prop :=
  f.isBound r = true ∧
    ∃ state, s.forms.field? r = some state ∧ state.active = false ∧ state.touched = true ∧
      state.value = v

/-- What a form shows in an active field can be sent once no check fails. -/
theorem sendableValue_of_active (h : f.Consistent) (htyped : s.WellTyped)
    (hfault : f.submitFault? s = none) {r : FieldRef} {state : FieldState}
    (hbound : f.isBound r = true) (hstate : s.forms.field? r = some state)
    (hactive : state.active = true) : s.SendableValue r state.value := by
  have hmem : (r, state) ∈ f.boundStates s :=
    mem_boundStates_iff.2 ⟨(h.isBound_iff r).1 hbound, hstate⟩
  have hpasses : state.blocksSubmit = false := by
    have hnone := (submitFault?_eq_none_iff.1 hfault).1
    rw [invalidFields, List.map_eq_nil_iff, List.filter_eq_nil_iff] at hnone
    simpa using hnone _ hmem
  have hvalid : state.valid = true := by
    simpa [FieldState.blocksSubmit, hactive] using hpasses
  obtain ⟨d, hd, hverdict⟩ := htyped r state hstate
  rw [Session.sendableValue_iff hd]
  exact FieldType.encodes_of_validates (hverdict ▸ hvalid)

/-- What a form shows in an untouched field can be sent if the session can. -/
theorem sendableValue_of_untouched (hcoherent : s.Coherent) (hsendable : s.Sendable)
    {r : FieldRef} {state : FieldState} (hstate : s.forms.field? r = some state)
    (huntouched : state.touched = false) : s.SendableValue r state.value := by
  rw [hcoherent.follows r state hstate huntouched]
  cases hvalue : s.store.fieldValue? r with
  | none => exact s.sendableValue_null r
  | some v => exact Session.sendable_iff.1 hsendable r v hvalue

/-- After a commit the session can be sent exactly if all hidden edits of the form can be. -/
theorem sendable_commitAll_iff (h : f.Consistent) (hcoherent : s.Coherent)
    (htyped : s.WellTyped) (hsendable : s.Sendable) (hfault : f.submitFault? s = none) :
    (commitAll s (f.pending s)).2.Sendable ↔ ∀ r v, f.HidesEdit s r v → s.SendableValue r v := by
  have hschema := schema_commitAll s (f.pending s)
  rw [Session.sendable_iff]
  simp only [Session.sendableValue_congr hschema]
  constructor
  · rintro hall r v ⟨hbound, state, hstate, -, -, rfl⟩
    exact hall r state.value (fieldValue?_commitAll_of_bound h hbound hstate)
  · intro hhidden r v hv
    by_cases hwritten : ∃ state, (r, state) ∈ f.boundStates s
    · obtain ⟨state, hmem⟩ := hwritten
      obtain ⟨hin, hstate⟩ := mem_boundStates_iff.1 hmem
      have hbound : f.isBound r = true := (h.isBound_iff r).2 hin
      rw [fieldValue?_commitAll_of_bound h hbound hstate] at hv
      obtain rfl : state.value = v := Option.some.inj hv
      cases htouched : state.touched with
      | false => exact sendableValue_of_untouched hcoherent hsendable hstate htouched
      | true =>
        cases hactive : state.active with
        | true => exact sendableValue_of_active h htyped hfault hbound hstate hactive
        | false => exact hhidden r _ ⟨hbound, state, hstate, hactive, htouched, rfl⟩
    · rw [fieldValue?_commitAll_of_unbound (not_exists.1 hwritten)] at hv
      exact Session.sendable_iff.1 hsendable r v hv

end Form

namespace Panels

/-- A session that could be sent can still be sent after a commit exactly if every edit that the
form has hidden can be. -/
theorem submit_sendable_iff {p : Panels} (hp : p.ReachableVia OwnBinding)
    (hsendable : p.session.Sendable) {k : Nat} {committed : List (String × Revision)}
    (hok : ((p.forms k).submit p.session).outcome = .ok committed) :
    ((p.forms k).submit p.session).session.Sendable ↔
      ∀ r v, (p.forms k).HidesEdit p.session r v → p.session.SendableValue r v := by
  obtain ⟨hbelongs, hfault, -⟩ := Form.submit_eq_ok_iff.1 hok
  have hown := own_of_reachable hp
  rw [Form.submit_of_no_fault hbelongs hfault]
  exact Form.sendable_commitAll_iff (hown.fits k hbelongs).consistent hown.coherent
    hown.wellTyped hsendable hfault

end Panels

/-! ## A hidden edit without wire form -/

/-- A schema of one model, a stock with a count. -/
def Schema.stock : Schema where
  models := Dict.ofList [("stock", Dict.ofList [
    ("count", ⟨"Count", ⟨.integer, true⟩, none, none⟩)])]
  views := []

/-- The count of the stock. -/
def FieldRef.stockCount : FieldRef :=
  ⟨"stock", "count"⟩

namespace Panels

/-- No form has been opened yet, and the stock is not stored yet. -/
def storeroom : Panels :=
  ⟨.new ⟨1⟩ .stock, fun _ => .empty⟩

/-- The stock is stored, and a form hides its count and then edits it. -/
def countHidden : Panels :=
  storeroom.run [.admin (.replaceModel "stock" (Dict.ofList [("count", .string "1")])),
    .form 0 (.bind "stock.count"), .form 0 (.setActive .stockCount false),
    .form 0 (.edit .stockCount (.string "many"))]

theorem reachable_countHidden : countHidden.ReachableVia OwnBinding :=
  (ReachableVia.fresh ⟨⟨⟨1⟩, .stock, rfl⟩, fun _ => Or.inl rfl⟩).run
    ⟨trivial, trivial, trivial, trivial, trivial⟩

theorem sendable_countHidden : countHidden.session.Sendable :=
  ⟨_, rfl⟩

/-- The commit with the hidden edit is accepted. -/
theorem submit_countHidden :
    ((countHidden.forms 0).submit countHidden.session).outcome = .ok [("stock", ⟨2⟩)] := by
  rfl

/-- The commit keeps the session sendable exactly if the hidden edit can be sent. -/
theorem submit_sendable_iff_countHidden :
    ((countHidden.forms 0).submit countHidden.session).session.Sendable ↔
      ∀ r v, (countHidden.forms 0).HidesEdit countHidden.session r v →
        countHidden.session.SendableValue r v :=
  submit_sendable_iff reachable_countHidden sendable_countHidden submit_countHidden

/-- A commit that goes through makes a session unsendable: the count was hidden, so that it was
written without being checked. -/
theorem not_every_commit_sendable :
    ¬ ∀ p : Panels, p.ReachableVia OwnBinding → p.session.Sendable → ∀ k,
      (p.forms k).session = some p.session.id → ∀ committed,
      ((p.forms k).submit p.session).outcome = .ok committed →
        ((p.forms k).submit p.session).session.Sendable := by
  intro hall
  obtain ⟨wire, hwire⟩ := hall countHidden reachable_countHidden sendable_countHidden 0 rfl _
    submit_countHidden
  have hrefused : ((countHidden.forms 0).submit countHidden.session).session.wireModels =
      .error ⟨.stockCount, .notANumber "many"⟩ := by
    rfl
  rw [hrefused] at hwire
  cases hwire

end Panels
end PanelForms

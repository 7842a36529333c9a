import Mathlib.Data.List.Basic
import PanelForms.Proofs.Session.BoundStates
import PanelForms.Proofs.Session.Submit

/-!
# The representation of a form

A form keeps its bindings as a list of fields, as an index of their places in that list and as a
revision for each bound model, and it reads the editing states of its fields from the session.  The
index is followed into the list without looking whether there is such a place, and a field without
editing state is passed over.  This module shows that neither can go wrong: whatever has been done
to the session by whichever form, the index and the revisions tell the truth about the list, and
every field is read.

Main results:

- Definitions `Form.ReadsAll` and `Form.Represented`: what a form can rely on.
- Theorem `Form.Consistent.nodup_refs`: no field is bound twice.
- Theorem `Form.Effect.indexed`: every operation keeps the index in step with the list.
- Theorem `Form.Fits.readsAll`: aggregates and commits go through all fields that have states.
- Theorem `Panels.represented_of_reachable`: every form of the session is represented in it.
-/

namespace PanelForms
namespace Form

/-- The bound fields that have editing state as they are shown, in the order of binding. -/
def views (f : Form) (s : Session) : List FieldView :=
  f.fields.filterMap fun field =>
    (s.forms.field? field.ref).map fun state => ⟨field, state, s.store.fieldValue? field.ref⟩

/-- The index has one entry for each bound field, its reference with its place. -/
def Indexed (f : Form) : Prop :=
  f.index = f.fields.zipIdx.map fun p => (p.1.ref, p.2)

/-- Every bound field is shown, and neither an aggregate nor a commit leaves one out. -/
structure ReadsAll (f : Form) (s : Session) : Prop where
  /-- All bound fields are shown, in the order of binding. -/
  fields_shown : (f.views s).map (·.field) = f.fields
  /-- What is shown is what is read field by field. -/
  getField_eq : ∀ v ∈ f.views s, f.getField s v.field.ref = .ok v
  isDirty_eq : f.isDirty s = (f.views s).any (·.state.isDirty)
  isValid_eq : f.isValid s = (f.views s).all fun v => !v.state.blocksSubmit
  invalidFields_eq : f.invalidFields s =
    ((f.views s).filter (·.state.blocksSubmit)).map (·.field.ref)
  hasTouchedFields_eq : ∀ model, f.hasTouchedFields s model =
    (f.views s).any fun v => v.field.ref.model == model && v.state.touched
  /-- The record made for a commit has the values of all bound fields of its model. -/
  pending : ∀ v ∈ f.views s,
    (f.pendingRecord s v.field.ref.model).get? v.field.ref.field = some v.state.value
  /-- After a commit the values of all bound fields are stored. -/
  committed : ∀ revisions, (f.submit s).outcome = .ok revisions → ∀ v ∈ f.views s,
    (f.submit s).session.store.fieldValue? v.field.ref = some v.state.value

/-- The bindings of a form agree with each other and with the session. -/
structure Represented (f : Form) (s : Session) : Prop where
  /-- The index has as many entries as there are fields, in the order of binding. -/
  indexed : f.Indexed
  /-- The index maps the references of the bound fields to their places, and no others. -/
  index_iff : ∀ r i, f.index.lookup r = some i ↔ f.fields[i]?.map (·.ref) = some r
  /-- Every place is in range, and the field there is the one that is found. -/
  in_range : ∀ r i, f.index.lookup r = some i →
    ∃ h : i < f.fields.length, f.fields[i].ref = r ∧ f.bound r = .ok f.fields[i]
  /-- No field is bound twice. -/
  nodup : (f.fields.map (·.ref)).Nodup
  /-- A revision is remembered for the models of the bound fields, and for no others. -/
  synced_iff : ∀ model, (∃ revision, f.syncedRevision? model = some revision) ↔
    ∃ field ∈ f.fields, field.ref.model = model
  /-- No remembered revision is ahead of the store. -/
  synced_le : ∀ model revision, f.syncedRevision? model = some revision →
    revision.number ≤ (s.store.revision model).number
  /-- A bound field has editing state and can be read. -/
  bound_read : ∀ field ∈ f.fields, ∃ state, s.forms.field? field.ref = some state ∧
    f.getField s field.ref = .ok ⟨field, state, s.store.fieldValue? field.ref⟩
  /-- No other field can be read. -/
  unbound_refused : ∀ r, (∀ field ∈ f.fields, field.ref ≠ r) →
    f.getField s r = .error (.unboundField r)
  readsAll : f.ReadsAll s

/-! ## The index and the list of fields -/

section index

variable {f f' : Form} {s : Session}

/-- A new field is found at the place behind all others. -/
theorem Indexed.appendField (h : f.Indexed) (field : ResolvedField) :
    (f.appendField field).Indexed := by
  have hindex : f.index = f.fields.zipIdx.map fun p => (p.1.ref, p.2) := h
  simp [Indexed, Form.appendField, List.zipIdx_append, hindex]

/-- Every operation keeps the index in step with the list of fields. -/
theorem Effect.indexed {op : FormOp} {changes : List Change} (he : f.Effect s op f' changes)
    (h : f.Indexed) : f'.Indexed := by
  cases he with
  | refused hrefused hsame => rcases hsame with rfl | ⟨-, rfl⟩ <;> exact h
  | @bound op field =>
    -- The revision that is noted in between is kept apart from the index and the list.
    refine Indexed.appendField ?_ field
    rw [Indexed, index_noteRevision, fields_noteRevision]
    exact h
  | rebound | edited | activated | committed | cancelled => exact h

/-- The index leads to a field, and to the right one. -/
theorem Consistent.in_range (h : f.Consistent) {r : FieldRef} {i : Nat}
    (hi : f.index.lookup r = some i) :
    ∃ hlt : i < f.fields.length, f.fields[i].ref = r ∧ f.bound r = .ok f.fields[i] := by
  obtain ⟨field, hfield, href⟩ := Option.map_eq_some_iff.1 ((h.index_iff r i).1 hi)
  obtain ⟨hlt, hget⟩ := List.getElem?_eq_some_iff.1 hfield
  have hbound : f.bound r = .ok field :=
    (h.bound_eq_ok_iff r field).2 ⟨List.mem_of_getElem? hfield, href⟩
  rw [← hget] at href hbound
  exact ⟨hlt, href, hbound⟩

/-- No field is bound twice, since the index has one place for its reference. -/
theorem Consistent.nodup_refs (h : f.Consistent) : (f.fields.map (·.ref)).Nodup := by
  rw [List.Nodup, List.pairwise_map, List.pairwise_iff_getElem]
  intro i j hi hj hlt hsame
  have hfirst : f.index.lookup f.fields[i].ref = some i := (h.index_iff _ _).2 (by simp [hi])
  have hsecond : f.index.lookup f.fields[i].ref = some j :=
    (h.index_iff _ _).2 (by simp [hj, hsame])
  rw [hfirst] at hsecond
  exact Nat.ne_of_lt hlt (Option.some.inj hsecond)

/-- A revision is recorded exactly for the models of the bound fields. -/
theorem Consistent.synced_iff (h : f.Consistent) (model : String) :
    (∃ revision, f.syncedRevision? model = some revision) ↔
      ∃ field ∈ f.fields, field.ref.model = model := by
  rw [← h.models_iff, Dict.contains_eq_true_iff]
  rfl

end index

/-! ## Reading the fields -/

section views

variable {f : Form} {s : Session}

/-- The views are those of the bound fields that have a state. -/
theorem mem_views_iff {v : FieldView} : v ∈ f.views s ↔
    v.field ∈ f.fields ∧ s.forms.field? v.field.ref = some v.state ∧
      v.canonical = s.store.fieldValue? v.field.ref := by
  rw [views, List.mem_filterMap]
  constructor
  · rintro ⟨field, hfield, hview⟩
    obtain ⟨state, hstate, rfl⟩ := Option.map_eq_some_iff.1 hview
    exact ⟨hfield, hstate, rfl⟩
  · rintro ⟨hfield, hstate, hcanonical⟩
    refine ⟨v.field, hfield, ?_⟩
    rw [hstate, ← hcanonical]
    rfl

/-- The aggregates go through the fields as they are shown. -/
theorem boundStates_eq (f : Form) (s : Session) :
    f.boundStates s = (f.views s).map fun v => (v.field.ref, v.state) := by
  simp [boundStates, views, List.map_filterMap, Function.comp_def]

/-- Every view shows the state of a bound field. -/
theorem mem_boundStates_of_mem_views {v : FieldView} (hv : v ∈ f.views s) :
    (v.field.ref, v.state) ∈ f.boundStates s := by
  rw [boundStates_eq]
  exact List.mem_map.2 ⟨v, hv, rfl⟩

/-- No field is passed over if all have states. -/
theorem map_field_views (h : ∀ field ∈ f.fields, s.HasState field.ref) :
    (f.views s).map (·.field) = f.fields := by
  have hsome : ∀ field ∈ f.fields,
      (s.forms.field? field.ref).map (fun _ => field) = some field := by
    intro field hfield
    obtain ⟨state, hstate⟩ := h field hfield
    rw [hstate]
    rfl
  calc (f.views s).map (·.field)
      = f.fields.filterMap fun field => (s.forms.field? field.ref).map fun _ => field := by
        simp [views, List.map_filterMap, Function.comp_def]
    _ = f.fields.filterMap some := List.filterMap_congr hsome
    _ = f.fields := List.filterMap_some

/-- A bound field with a state is shown with that state and its stored value. -/
theorem Consistent.getField_eq_ok (h : f.Consistent) {field : ResolvedField} {state : FieldState}
    (hfield : field ∈ f.fields) (hstate : s.forms.field? field.ref = some state) :
    f.getField s field.ref = .ok ⟨field, state, s.store.fieldValue? field.ref⟩ := by
  rw [getField, (h.bound_eq_ok_iff field.ref field).2 ⟨hfield, rfl⟩, hstate]

/-- A field that is not bound is refused for that. -/
theorem Consistent.getField_of_unbound (h : f.Consistent) {r : FieldRef}
    (hr : ∀ field ∈ f.fields, field.ref ≠ r) : f.getField s r = .error (.unboundField r) := by
  have hbound : f.isBound r = false := by
    rw [Bool.eq_false_iff, Ne, h.isBound_iff]
    rintro ⟨field, hfield, href⟩
    exact hr field hfield href
  have hlookup : f.index.lookup r = none := by simpa [isBound] using hbound
  simp [getField, bound, hlookup]

/-- Aggregates and commits go through all fields of a form if all have states. -/
theorem Fits.readsAll (h : f.Fits s) (hstates : ∀ field ∈ f.fields, s.HasState field.ref) :
    f.ReadsAll s where
  fields_shown := map_field_views hstates
  getField_eq v hv := by
    obtain ⟨hfield, hstate, hcanonical⟩ := mem_views_iff.1 hv
    rw [h.consistent.getField_eq_ok hfield hstate, ← hcanonical]
  isDirty_eq := by
    rw [isDirty, boundStates_eq, List.any_map]
    rfl
  isValid_eq := by
    rw [isValid, boundStates_eq, List.any_map, List.not_any_eq_all_not]
    rfl
  invalidFields_eq := by
    rw [invalidFields, boundStates_eq, List.filter_map, List.map_map]
    rfl
  hasTouchedFields_eq model := by
    rw [hasTouchedFields, boundStates_eq, List.any_map]
    rfl
  pending v hv := get?_pendingRecord_of_bound (mem_boundStates_of_mem_views hv)
  committed revisions hok v hv := by
    obtain ⟨hbelongs, hfault, -⟩ := submit_eq_ok_iff.1 hok
    obtain ⟨hfield, hstate, -⟩ := mem_views_iff.1 hv
    have hbound : f.isBound v.field.ref = true :=
      (h.consistent.isBound_iff _).2 ⟨v.field, hfield, rfl⟩
    rw [submit_of_no_fault hbelongs hfault]
    exact fieldValue?_commitAll_of_bound h.consistent hbound hstate

/-- A form that fits its session, and whose fields have states, is represented in full. -/
theorem Fits.represented (h : f.Fits s) (hindexed : f.Indexed)
    (hstates : ∀ field ∈ f.fields, s.HasState field.ref) : f.Represented s where
  indexed := hindexed
  index_iff := h.consistent.index_iff
  in_range _ _ hi := h.consistent.in_range hi
  nodup := h.consistent.nodup_refs
  synced_iff := h.consistent.synced_iff
  synced_le := h.synced_le
  bound_read field hfield := by
    obtain ⟨state, hstate⟩ := hstates field hfield
    exact ⟨state, hstate, h.consistent.getField_eq_ok hfield hstate⟩
  unbound_refused _ hr := h.consistent.getField_of_unbound hr
  readsAll := h.readsAll hstates

end views
end Form

namespace Panels

variable {p : Panels}

/-- A form of the session keeps its index in step with its fields. -/
theorem indexed_of_reachable {Allowed : Panels → PanelOp → Prop} (hp : p.ReachableVia Allowed)
    {k : Nat} (hbelongs : (p.forms k).BelongsTo p.session) : (p.forms k).Indexed := by
  induction hp with
  | @fresh p h =>
    rcases h.forms k with hempty | hnot
    · rw [hempty]
      rfl
    · exact (hnot hbelongs).elim
  | @step p op h hallowed ih =>
    obtain ⟨changes, he, hsession⟩ := step_effect (sound_of_reachable h) op
    rw [hsession] at hbelongs
    have hbefore := ih ((he.belongsTo_iff k).1 hbelongs)
    rcases he.forms_eq k with hsame | ⟨fop, -, heffect⟩
    · rw [hsame]
      exact hbefore
    · exact heffect.indexed hbefore

/-- Whatever has been done with the panels, every form of the session is represented in it. -/
theorem represented_of_reachable (hp : p.ReachableVia OwnBinding) {k : Nat}
    (hbelongs : (p.forms k).BelongsTo p.session) : (p.forms k).Represented p.session :=
  ((own_of_reachable hp).fits k hbelongs).represented (indexed_of_reachable hp hbelongs)
    (hasState_of_reachable hp hbelongs)

/-- A second form has bound both fields of the memo while a first one was editing the title; the
edit has been committed and the memo replaced since then. -/
def bothBound : Panels :=
  desk.run (titleEdited ++ [.form 1 (.bind "memo.body"), .form 1 (.bind "memo.title"),
    .form 1 (.bind "memo.body"), .form 0 .submit,
    .admin (.replaceModel "memo" (.memo "newer" "more"))])

theorem reachable_bothBound : bothBound.ReachableVia OwnBinding :=
  (ReachableVia.fresh fresh_desk).run
    ⟨trivial, trivial, trivial, trivial, trivial, trivial, trivial, trivial, trivial⟩

/-- The form shows both fields in the order of binding, with the values that the session has. -/
theorem represented_bothBound :
    (bothBound.forms 1).index = [(⟨"memo", "body"⟩, 0), (.memoTitle, 1)] ∧
      ((bothBound.forms 1).views bothBound.session).map (·.state.value) =
        [.string "more", .string "newer"] ∧
      (bothBound.forms 1).Represented bothBound.session :=
  ⟨rfl, rfl, represented_of_reachable reachable_bothBound (Or.inr rfl)⟩

end Panels
end PanelForms

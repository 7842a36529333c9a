import PanelForms.Proofs.Session.Panels

/-!
# Editing states of bound fields

A form reads the editing states of its fields and passes over a field that has none.  Binding a
field gives it a state, and no change takes the state of a field of the schema away, so a form that
binds fields of its own session never passes over one.

Main results:

- Definition `Session.HasState`: a field has editing state.
- Theorem `Session.HasState.apply`: every change keeps the editing state of a field of the schema.
- Theorem `Form.Effect.hasState`: a form that acts has states for all its fields afterwards.
- Theorem `Panels.hasState_of_reachable`: every bound field has editing state.
-/

namespace PanelForms
namespace Session

variable {s : Session} {r : FieldRef}

/-- The field has editing state. -/
def HasState (s : Session) (r : FieldRef) : Prop :=
  ∃ state, s.forms.field? r = some state

/-- A field that has just been seeded for a form has editing state: its edit, or a fresh one. -/
theorem hasState_seedField (s : Session) (field : ResolvedField) :
    (Form.seedField s field).HasState field.ref := by
  unfold HasState
  rw [field?_seedField]
  cases hedit : s.edit? field.ref with
  | none => simp
  | some value =>
    obtain ⟨state, hstate, -⟩ := edit?_eq_some_iff.1 hedit
    simp [hstate]

/-- A state that is there is still there after another one is written. -/
theorem HasState.setField (h : s.HasState r) (other : FieldRef) (state : FieldState) :
    ∃ after, (s.forms.setField other state).field? r = some after := by
  rw [FormState.field?_setField]
  split
  · exact ⟨state, rfl⟩
  · exact h

/-- No change takes the editing state of a field of the schema away. -/
theorem HasState.apply (h : s.HasState r) (hr : ∃ d, s.schema.field? r = some d) (c : Change) :
    (s.apply c).HasState r := by
  obtain ⟨d, hd⟩ := hr
  cases c with
  | seed field =>
    unfold HasState
    rw [Session.apply, field?_seedField]
    split
    · exact ⟨_, rfl⟩
    · exact h
  | edit field value => exact h.setField field.ref _
  | activate other active =>
    obtain ⟨state, hstate⟩ := h
    unfold HasState
    rw [field?_apply_activate, hstate]
    exact ⟨_, rfl⟩
  | replace model record =>
    unfold HasState
    rw [Session.apply, replaceModel, field?_refreshUntouched]
    split
    · exact ⟨_, by rw [hd]; rfl⟩
    · exact h
  | commit model record =>
    unfold HasState
    rw [Session.apply, Form.commitModel, field?_reseedModel]
    split
    · exact ⟨_, by rw [hd]; rfl⟩
    · exact h
  | reseed model =>
    unfold HasState
    rw [Session.apply, field?_reseedModel]
    split
    · exact ⟨_, by rw [hd]; rfl⟩
    · exact h
  | attend op => exact h

/-- A state that is there is still there after any changes. -/
theorem HasState.applyAll (h : s.HasState r) (hr : ∃ d, s.schema.field? r = some d)
    (changes : List Change) : (s.applyAll changes).HasState r := by
  have hboth : (s.applyAll changes).HasState r ∧
      ∃ d, (s.applyAll changes).schema.field? r = some d := by
    refine applyAll_induction (motive := fun t => t.HasState r ∧ ∃ d, t.schema.field? r = some d)
      ⟨h, hr⟩ ?_
    rintro t c - ⟨ht, hd⟩
    refine ⟨ht.apply hd c, ?_⟩
    rw [schema_apply]
    exact hd
  exact hboth.1

end Session

namespace Form

/-- A form is dirty exactly if one of its fields is active and touched. -/
theorem isDirty_iff {f : Form} {s : Session} :
    f.isDirty s = true ↔ ∃ field ∈ f.fields, ∃ state,
      s.forms.field? field.ref = some state ∧ state.active = true ∧ state.touched = true := by
  rw [isDirty, List.any_eq_true]
  constructor
  · rintro ⟨⟨r, state⟩, hmem, hdirty⟩
    obtain ⟨⟨field, hfield, rfl⟩, hstate⟩ := mem_boundStates_iff.1 hmem
    exact ⟨field, hfield, state, hstate, by simpa [FieldState.isDirty] using hdirty⟩
  · rintro ⟨field, hfield, state, hstate, hdirty⟩
    refine ⟨(field.ref, state), mem_boundStates_iff.2 ⟨⟨field, hfield, rfl⟩, hstate⟩, ?_⟩
    simpa [FieldState.isDirty] using hdirty

/-- A form that acts has states for all its fields afterwards, if they are fields of the schema. -/
theorem Effect.hasState {f f' : Form} {s : Session} {op : FormOp} {changes : List Change}
    (he : f.Effect s op f' changes)
    (hfields : ∀ field ∈ f'.fields, ∃ d, s.schema.field? field.ref = some d)
    (h : ∀ field ∈ f.fields, s.HasState field.ref) :
    ∀ field ∈ f'.fields, (s.applyAll changes).HasState field.ref := by
  intro field hfield
  have hkeeps : field ∈ f.fields → (s.applyAll changes).HasState field.ref := fun hold =>
    (h field hold).applyAll (hfields field hfield) changes
  cases he with
  | refused hrefused hsame =>
    rcases hsame with rfl | ⟨-, rfl⟩
    · exact hkeeps hfield
    · exact hkeeps hfield
  | bound =>
    simp only [appendField, fields_noteRevision, List.mem_append, List.mem_singleton] at hfield
    rcases hfield with hold | rfl
    · exact hkeeps hold
    · exact s.hasState_seedField field
  | rebound | edited | activated | committed | cancelled => exact hkeeps hfield

end Form

namespace Panels

variable {p : Panels}

/-- What a form of the session binds are fields of its schema. -/
theorem Own.field?_of_mem (h : p.Own) {k : Nat} (hbelongs : (p.forms k).BelongsTo p.session)
    {field : ResolvedField} (hfield : field ∈ (p.forms k).fields) :
    ∃ d, p.session.schema.field? field.ref = some d := by
  obtain ⟨-, d, hd, -⟩ := Schema.resolveRef_eq_ok (h.resolved k hbelongs field hfield)
  exact ⟨d, hd⟩

/-- Every field that a form of the session has bound has editing state. -/
theorem hasState_of_reachable (hp : p.ReachableVia OwnBinding) {k : Nat}
    (hbelongs : (p.forms k).BelongsTo p.session) :
    ∀ field ∈ (p.forms k).fields, p.session.HasState field.ref := by
  induction hp with
  | @fresh p h =>
    rcases h.forms k with hempty | hnot
    · rw [hempty]
      nofun
    · exact (hnot hbelongs).elim
  | @step p op h hallowed ih =>
    have hown := own_of_reachable h
    have hnext := hown.step hallowed
    obtain ⟨changes, he, hsession⟩ := step_effect hown.toSound op
    have hbefore : (p.forms k).BelongsTo p.session := by
      rw [hsession] at hbelongs
      exact (he.belongsTo_iff k).1 hbelongs
    have hfields : ∀ field ∈ ((p.step op).forms k).fields,
        ∃ d, p.session.schema.field? field.ref = some d := by
      intro field hfield
      have hd := hnext.field?_of_mem hbelongs hfield
      rwa [hsession, Session.schema_applyAll] at hd
    rw [hsession]
    rcases he.forms_eq k with hsame | ⟨fop, -, heffect⟩
    · rw [hsame] at hfields ⊢
      exact fun field hfield => (ih hbefore field hfield).applyAll (hfields field hfield) changes
    · exact heffect.hasState hfields (ih hbefore)

end Panels
end PanelForms

import PanelForms.Proofs.Session.Change

/-!
# Invariants of a session

Records and editing states are kept in two stores, and a change writes to one, to the other or to
both.  This module names what the two stores owe each other and shows that every elementary change
keeps it.

Main results:

- Definition `Session.Coherent`: revisions are bounded by the last stamp, editing state exists for
  models of the schema only, and an untouched field shows its canonical value.
- Definition `Session.WellTyped`: every editing state belongs to a field of the schema and carries
  the verdict of the type of that field.
- Theorems `Session.Coherent.apply` and `Session.WellTyped.apply`: every change keeps them.
- Theorem `Session.edit?_apply`: the exact effect of a change on the edit that a field holds.
- Theorem `Session.edit?_applyAll`: which runs of changes keep an edit.
- Theorem `Session.Coherent.revision_le_apply`: revisions never decrease.
-/

namespace PanelForms

/-! ## Which changes fit a schema -/

/-- The change touches editing state of a model of the schema. -/
def Change.KnownTo (schema : Schema) : Change → Prop
  | .seed field | .edit field _ => schema.models.contains field.ref.model = true
  | _ => True

/-- The field that the change seeds or edits is the one that the schema resolves. -/
def Change.ResolvedBy (schema : Schema) : Change → Prop
  | .seed field | .edit field _ => schema.resolveRef field.ref = .ok field
  | _ => True

namespace Schema

/-- What the resolution of a reference says about it. -/
theorem resolveRef_eq_ok {s : Schema} {r : FieldRef} {field : ResolvedField}
    (h : s.resolveRef r = .ok field) :
    field.ref = r ∧ ∃ d, s.field? r = some d ∧ field.fieldType = d.fieldType := by
  unfold resolveRef at h
  split at h
  next => cases h
  next model hmodel =>
    split at h
    next => cases h
    next d hd =>
      cases h
      exact ⟨rfl, d, by simp [field?, hmodel, hd], rfl⟩

/-- The binding of a text is the binding of the reference in it. -/
theorem resolveRef_of_resolve {s : Schema} {text : String} {field : ResolvedField}
    (h : s.resolve text = .ok field) : s.resolveRef field.ref = .ok field := by
  unfold resolve at h
  split at h
  next => cases h
  next r hr => rw [(resolveRef_eq_ok h).1, h]

/-- A field is found in a known model only. -/
theorem contains_of_field? {s : Schema} {r : FieldRef} {d : FieldDef}
    (h : s.field? r = some d) : s.models.contains r.model = true := by
  obtain ⟨model, hmodel, -⟩ := Option.bind_eq_some_iff.1 h
  exact Dict.contains_eq_true_iff.2 ⟨model, hmodel⟩

/-- A reference that resolves is one to a known model. -/
theorem contains_of_resolveRef {s : Schema} {r : FieldRef} {field : ResolvedField}
    (h : s.resolveRef r = .ok field) : s.models.contains field.ref.model = true := by
  obtain ⟨href, d, hd, -⟩ := resolveRef_eq_ok h
  rw [href]
  exact contains_of_field? hd

end Schema

/-- A change that the schema resolves is one to a known model. -/
theorem Change.ResolvedBy.knownTo {schema : Schema} {c : Change} (h : c.ResolvedBy schema) :
    c.KnownTo schema := by
  cases c with
  | seed field => exact Schema.contains_of_resolveRef h
  | edit field value => exact Schema.contains_of_resolveRef h
  | activate | replace | commit | reseed | attend => trivial

namespace Session

/-! ## Coherence of the two stores -/

/-- What the records and the editing states of a session owe each other, whatever was bound. -/
structure Coherent (s : Session) : Prop where
  /-- No revision is greater than the last stamp. -/
  stamped : ∀ model, (s.store.revision model).number ≤ s.store.lastStamp
  /-- Editing state exists for models of the schema only. -/
  known : ∀ model, Dict.contains s.forms model = true → s.schema.models.contains model = true
  /-- An untouched field shows its canonical value, or null where there is none. -/
  follows : ∀ r state, s.forms.field? r = some state → state.touched = false →
    state.value = (s.store.fieldValue? r).getD .null

/-- Every editing state belongs to a field of the schema and carries the verdict of its type. -/
def WellTyped (s : Session) : Prop :=
  ∀ r state, s.forms.field? r = some state →
    ∃ d, s.schema.field? r = some d ∧ state.valid = d.fieldType.validates state.value

/-- A new session is coherent: it has neither records nor states. -/
theorem coherent_new (id : SessionId) (schema : Schema) : (new id schema).Coherent where
  stamped model := Nat.le_refl 0
  known model h := by cases h
  follows r state h := by cases h

/-- A new session is well-typed. -/
theorem wellTyped_new (id : SessionId) (schema : Schema) : (new id schema).WellTyped := by
  intro r state h
  cases h

/-- A record is stamped with a revision that no model has had. -/
theorem Coherent.revision_lt_next {s : Session} (h : s.Coherent) (model : String) :
    (s.store.revision model).number < s.store.nextRevision.number :=
  Nat.lt_succ_of_le (h.stamped model)

/-- Revisions never decrease. -/
theorem Coherent.revision_le_apply {s : Session} (h : s.Coherent) (c : Change) (model : String) :
    (s.store.revision model).number ≤ ((s.apply c).store.revision model).number := by
  have hupdate : ∀ name record, (s.store.revision model).number ≤
      ((s.store.update name record).revision model).number := by
    intro name record
    rw [ModelStore.revision_update]
    split
    · exact Nat.le_of_lt (h.revision_lt_next model)
    · exact Nat.le_refl _
  rw [store_apply]
  cases c with
  | replace name record => exact hupdate name record
  | commit name record => exact hupdate name record
  | attend op => simp [ModelStore.revision]
  | seed | edit | activate | reseed => exact Nat.le_refl _

/-- No change gives a revision that was not handed out. -/
theorem Coherent.stamped_apply {s : Session} (h : s.Coherent) (c : Change) (model : String) :
    ((s.apply c).store.revision model).number ≤ (s.apply c).store.lastStamp := by
  have hupdate : ∀ name record,
      ((s.store.update name record).revision model).number ≤
        (s.store.update name record).lastStamp := by
    intro name record
    rw [ModelStore.revision_update]
    split
    · exact Nat.le_refl _
    · exact Nat.le_succ_of_le (h.stamped model)
  rw [store_apply]
  cases c with
  | replace name record => exact hupdate name record
  | commit name record => exact hupdate name record
  | attend op => simpa [ModelStore.revision] using h.stamped model
  | seed | edit | activate | reseed => exact h.stamped model

/-- No change makes states for an unknown model. -/
theorem Coherent.known_apply {s : Session} (h : s.Coherent) {c : Change}
    (hc : c.KnownTo s.schema) (model : String)
    (hmodel : Dict.contains (s.apply c).forms model = true) :
    s.schema.models.contains model = true := by
  have hset : ∀ r state, s.schema.models.contains r.model = true →
      Dict.contains (s.forms.setField r state) model = true →
        s.schema.models.contains model = true := by
    intro r state hr hin
    rcases (FormState.contains_setField s.forms r state model).1 hin with rfl | hold
    · exact hr
    · exact h.known model hold
  cases c with
  | seed field =>
    simp only [apply, Form.seedField] at hmodel
    split at hmodel
    · exact h.known model hmodel
    · exact hset field.ref _ hc hmodel
  | edit field value => exact hset field.ref _ hc hmodel
  | activate r active =>
    simp only [apply] at hmodel
    split at hmodel
    · exact h.known model hmodel
    · next state hstate =>
      exact hset r _ (h.known r.model (FormState.contains_of_field? hstate)) hmodel
  | replace name record =>
    let updated : Session := { s with store := s.store.update name record }
    exact h.known model ((contains_forms_refreshUntouched updated name model).1 hmodel)
  | commit name record =>
    rcases (contains_forms_reseedModel _ name model).1 hmodel with ⟨rfl, hknown⟩ | hold
    · exact hknown
    · exact h.known model hold
  | reseed name =>
    rcases (contains_forms_reseedModel s name model).1 hmodel with ⟨rfl, hknown⟩ | hold
    · exact hknown
    · exact h.known model hold
  | attend op => exact h.known model hmodel

/-- A refreshed field that is not touched shows the new canonical value. -/
theorem value_refreshed {previous : Option FieldState} {canonical : Option Json} {t : FieldType}
    (h : (refreshed previous canonical t).touched = false) :
    (refreshed previous canonical t).value = canonical.getD .null := by
  cases previous with
  | none => rfl
  | some state =>
    by_cases htouched : state.touched = true
    · simp [refreshed, htouched] at h
    · simp [refreshed, htouched, FieldState.setActive, FieldState.seeded]

/-- A field of a model that a change leaves alone keeps its canonical value. -/
theorem fieldValue?_update_of_ne {s : ModelStore} {model : String} {record : ModelRecord}
    {r : FieldRef} (h : model ≠ r.model) :
    (s.update model record).fieldValue? r = s.fieldValue? r := by
  rw [ModelStore.fieldValue?_update, if_neg h]

/-- Fields that were not touched still show what is stored after a change. -/
theorem Coherent.follows_apply {s : Session} (h : s.Coherent) (c : Change) (r : FieldRef)
    (state : FieldState) (hstate : (s.apply c).forms.field? r = some state)
    (huntouched : state.touched = false) :
    state.value = ((s.apply c).store.fieldValue? r).getD .null := by
  rw [store_apply]
  cases c with
  | seed field =>
    simp only [apply, field?_seedField] at hstate
    split at hstate
    · cases hstate
      rfl
    · exact h.follows r state hstate huntouched
  | edit field value =>
    simp only [apply, FormState.field?_setField] at hstate
    split at hstate
    · cases hstate
      cases huntouched
    · exact h.follows r state hstate huntouched
  | activate other active =>
    rw [field?_apply_activate] at hstate
    obtain ⟨before, hbefore, rfl⟩ := Option.map_eq_some_iff.1 hstate
    split at huntouched <;> split <;> exact h.follows r before hbefore huntouched
  | replace model record =>
    simp only [apply, replaceModel, field?_refreshUntouched] at hstate
    split at hstate
    · obtain ⟨d, -, rfl⟩ := Option.map_eq_some_iff.1 hstate
      exact value_refreshed huntouched
    · next hnot =>
      have hcontains := FormState.contains_of_field? hstate
      have hne : model ≠ r.model := by
        rintro rfl
        exact hnot ⟨rfl, h.known _ hcontains, hcontains⟩
      rw [fieldValue?_update_of_ne hne]
      exact h.follows r state hstate huntouched
  | commit model record =>
    simp only [apply, Form.commitModel, field?_reseedModel] at hstate
    split at hstate
    · obtain ⟨d, -, rfl⟩ := Option.map_eq_some_iff.1 hstate
      rfl
    · next hnot =>
      have hcontains := FormState.contains_of_field? hstate
      have hne : model ≠ r.model := by
        rintro rfl
        exact hnot ⟨rfl, h.known _ hcontains⟩
      rw [fieldValue?_update_of_ne hne]
      exact h.follows r state hstate huntouched
  | reseed model =>
    simp only [apply, field?_reseedModel] at hstate
    split at hstate
    · obtain ⟨d, -, rfl⟩ := Option.map_eq_some_iff.1 hstate
      rfl
    · exact h.follows r state hstate huntouched
  | attend op =>
    have hsame := h.follows r state hstate huntouched
    simpa [ModelStore.fieldValue?, ModelStore.record?] using hsame

/-- Every change keeps the two stores coherent. -/
theorem Coherent.apply {s : Session} (h : s.Coherent) {c : Change} (hc : c.KnownTo s.schema) :
    (s.apply c).Coherent where
  stamped := h.stamped_apply c
  known model hmodel := by
    rw [schema_apply]
    exact h.known_apply hc model hmodel
  follows := h.follows_apply c

/-- Changes to known models keep a session coherent. -/
theorem Coherent.applyAll {s : Session} (h : s.Coherent) {changes : List Change}
    (hknown : ∀ c ∈ changes, c.KnownTo s.schema) : (s.applyAll changes).Coherent := by
  induction changes generalizing s with
  | nil => exact h
  | cons c rest ih =>
    refine ih (h.apply (hknown c List.mem_cons_self)) fun c' hc' => ?_
    rw [schema_apply]
    exact hknown c' (List.mem_cons_of_mem _ hc')

/-- Changes never set a revision back. -/
theorem Coherent.revision_le_applyAll {s : Session} (h : s.Coherent) {changes : List Change}
    (hknown : ∀ c ∈ changes, c.KnownTo s.schema) (model : String) :
    (s.store.revision model).number ≤ ((s.applyAll changes).store.revision model).number := by
  induction changes generalizing s with
  | nil => exact Nat.le_refl _
  | cons c rest ih =>
    have hone := h.revision_le_apply c model
    have hrest := ih (h.apply (hknown c List.mem_cons_self)) fun c' hc' => by
      rw [schema_apply]
      exact hknown c' (List.mem_cons_of_mem _ hc')
    exact Nat.le_trans hone hrest

/-! ## Types of the editing states -/

/-- A refreshed field carries the verdict of its type. -/
theorem valid_refreshed {previous : Option FieldState} {canonical : Option Json} {t : FieldType}
    (h : ∀ state, previous = some state → state.valid = t.validates state.value) :
    (refreshed previous canonical t).valid =
      t.validates (refreshed previous canonical t).value := by
  cases previous with
  | none => rfl
  | some state =>
    by_cases htouched : state.touched = true
    · simpa [refreshed, htouched] using h state rfl
    · simp [refreshed, htouched, FieldState.setActive, FieldState.seeded]

/-- Every change whose field the schema resolves keeps the types. -/
theorem WellTyped.apply {s : Session} (h : s.WellTyped) {c : Change}
    (hc : c.ResolvedBy s.schema) : (s.apply c).WellTyped := by
  intro r state hstate
  rw [schema_apply]
  cases c with
  | seed field =>
    obtain ⟨-, d, hd, htype⟩ := Schema.resolveRef_eq_ok hc
    simp only [Session.apply, field?_seedField] at hstate
    split at hstate
    next hseeds =>
      cases hstate
      refine ⟨d, hseeds.1 ▸ hd, ?_⟩
      rw [← htype]
      rfl
    next => exact h r state hstate
  | edit field value =>
    obtain ⟨-, d, hd, htype⟩ := Schema.resolveRef_eq_ok hc
    simp only [Session.apply, FormState.field?_setField] at hstate
    split at hstate
    next href =>
      cases hstate
      refine ⟨d, href ▸ hd, ?_⟩
      rw [← htype]
      rfl
    next => exact h r state hstate
  | activate other active =>
    rw [field?_apply_activate] at hstate
    obtain ⟨before, hbefore, rfl⟩ := Option.map_eq_some_iff.1 hstate
    split <;> exact h r before hbefore
  | replace model record =>
    simp only [Session.apply, replaceModel, field?_refreshUntouched] at hstate
    split at hstate
    next =>
      obtain ⟨d, hd, rfl⟩ := Option.map_eq_some_iff.1 hstate
      refine ⟨d, hd, valid_refreshed ?_⟩
      intro before hbefore
      obtain ⟨d', hd', hvalid⟩ := h r before hbefore
      have hsame : d = d' := Option.some.inj (hd.symm.trans hd')
      rw [hsame]
      exact hvalid
    next => exact h r state hstate
  | commit model record =>
    simp only [Session.apply, Form.commitModel, field?_reseedModel] at hstate
    split at hstate
    next =>
      obtain ⟨d, hd, rfl⟩ := Option.map_eq_some_iff.1 hstate
      exact ⟨d, hd, rfl⟩
    next => exact h r state hstate
  | reseed model =>
    simp only [Session.apply, field?_reseedModel] at hstate
    split at hstate
    next =>
      obtain ⟨d, hd, rfl⟩ := Option.map_eq_some_iff.1 hstate
      exact ⟨d, hd, rfl⟩
    next => exact h r state hstate
  | attend op => exact h r state hstate

/-- Changes that the schema resolves keep a session well-typed. -/
theorem WellTyped.applyAll {s : Session} (h : s.WellTyped) {changes : List Change}
    (hresolved : ∀ c ∈ changes, c.ResolvedBy s.schema) : (s.applyAll changes).WellTyped := by
  induction changes generalizing s with
  | nil => exact h
  | cons c rest ih =>
    refine ih (h.apply (hresolved c List.mem_cons_self)) fun c' hc' => ?_
    rw [schema_apply]
    exact hresolved c' (List.mem_cons_of_mem _ hc')

/-! ## Edits -/

/-- A field of a model that the schema lacks has no editing state, so it holds no edit either. -/
theorem Coherent.edit?_eq_none {s : Session} (h : s.Coherent) {r : FieldRef}
    (hr : ¬ s.schema.models.contains r.model = true) : s.edit? r = none := by
  cases hstate : s.forms.field? r with
  | none => simp [edit?, hstate]
  | some state => exact (hr (h.known _ (FormState.contains_of_field? hstate))).elim

/-- Seeding a model anew discards the edits of all its fields. -/
theorem edit?_reseedModel {s : Session} {r : FieldRef}
    (h : ¬ s.schema.models.contains r.model = true → s.edit? r = none) (model : String) :
    (s.reseedModel model).edit? r = if model = r.model then none else s.edit? r := by
  unfold edit?
  rw [field?_reseedModel]
  by_cases hmodel : model = r.model
  · subst hmodel
    by_cases hknown : s.schema.models.contains r.model = true
    · simp only [hknown, and_self, if_true, Option.bind_map]
      cases s.schema.field? r <;> rfl
    · simpa [hknown, edit?] using h hknown
  · simp [hmodel]

/-- A replaced record keeps the edits of all fields of the schema. -/
theorem WellTyped.edit?_refreshUntouched {s : Session} (h : s.WellTyped) (model : String)
    (r : FieldRef) : (s.refreshUntouched model).edit? r = s.edit? r := by
  unfold edit?
  rw [field?_refreshUntouched]
  split
  next hcond =>
    rw [Option.bind_map]
    cases hd : s.schema.field? r with
    | some d => exact edit?_refreshed _ _ _
    | none =>
      cases hstate : s.forms.field? r with
      | none => rfl
      | some state =>
        obtain ⟨d, hd', -⟩ := h r state hstate
        rw [hd] at hd'
        cases hd'
  next => rfl

/-- Editing a field makes it hold the new value; committing or seeding a model discards the edits
of all its fields; no other change makes or loses an edit. -/
theorem edit?_apply {s : Session} (hcoherent : s.Coherent) (htyped : s.WellTyped) (c : Change)
    (r : FieldRef) :
    (s.apply c).edit? r =
      match c with
      | .edit field value => if field.ref = r then some value else s.edit? r
      | .commit model _ | .reseed model => if model = r.model then none else s.edit? r
      | _ => s.edit? r := by
  cases c with
  | seed field =>
    simp only [apply]
    unfold edit?
    rw [field?_seedField]
    split
    next hseeds => simpa [edit?] using hseeds.2.symm
    next => rfl
  | edit field value =>
    by_cases href : field.ref = r
    · simp [edit?, apply, FormState.field?_setField, href, editedState]
    · simp [edit?, apply, FormState.field?_setField, href]
  | activate other active =>
    unfold edit?
    rw [field?_apply_activate]
    cases s.forms.field? r with
    | none => rfl
    | some state => by_cases href : other = r <;> simp [href]
  | replace model record =>
    have htyped' : ({ s with store := s.store.update model record } : Session).WellTyped := htyped
    exact htyped'.edit?_refreshUntouched model r
  | commit model record =>
    let updated : Session := { s with store := s.store.update model record }
    have hunknown : ¬ updated.schema.models.contains r.model = true → updated.edit? r = none :=
      hcoherent.edit?_eq_none
    exact edit?_reseedModel hunknown model
  | reseed model => exact edit?_reseedModel hcoherent.edit?_eq_none model
  | attend op => rfl

/-- Changes that do not edit a field keep the edit that it holds, unless one of them discards the
edits of its model. -/
theorem edit?_applyAll {s : Session} (hcoherent : s.Coherent) (htyped : s.WellTyped)
    {changes : List Change} (hresolved : ∀ c ∈ changes, c.ResolvedBy s.schema) {r : FieldRef}
    (hspares : ∀ c ∈ changes, c.edited? ≠ some r) :
    (s.applyAll changes).edit? r =
      if ∃ c ∈ changes, c.discarded? = some r.model then none else s.edit? r := by
  induction changes generalizing s with
  | nil => simp
  | cons c rest ih =>
    have hc : c.ResolvedBy s.schema := hresolved c List.mem_cons_self
    have hrest := ih (hcoherent.apply hc.knownTo) (htyped.apply hc)
      (fun c' hc' => by
        rw [schema_apply]
        exact hresolved c' (List.mem_cons_of_mem _ hc'))
      (fun c' hc' => hspares c' (List.mem_cons_of_mem _ hc'))
    have hone : (s.apply c).edit? r = if c.discarded? = some r.model then none else s.edit? r := by
      rw [edit?_apply hcoherent htyped c r]
      have hnot := hspares c List.mem_cons_self
      cases c with
      | edit field value =>
        have hne : field.ref ≠ r := fun he => hnot (congrArg some he)
        simp [hne, Change.discarded?]
      | seed | activate | replace | commit | reseed | attend => simp [Change.discarded?]
    rw [applyAll_cons, hrest, hone]
    by_cases hhead : c.discarded? = some r.model <;> simp [hhead]

end Session
end PanelForms

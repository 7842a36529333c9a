import PanelForms.Proofs.Session.Commit

/-!
# Bindings of a form

A form keeps a list of its fields, the place of each in that list, and a revision for each model
that it binds.  This module says how the three belong together, and what attaching to a session,
binding a field and committing make of them.

Main results:

- Definitions `Form.Consistent` and `Form.Fits`: the invariants of the bindings.
- Theorem `Form.Consistent.bound_eq_ok_iff`: which binding a form finds for a reference.
- Theorem `Form.Consistent.appendField`: a new field keeps the bindings in order.
- Theorem `Form.seedField_comm`: two fields are seeded independently of each other.
- Theorem `Form.syncedRevision?_committed`: after a commit the form is in step with the store.
-/

namespace PanelForms
namespace Form

/-! ## Attachment -/

/-- The form may be used with the session: it is attached to it or not attached yet. -/
def BelongsTo (f : Form) (s : Session) : Prop :=
  f.session = none ∨ f.session = some s.id

/-- The form attached to the session. -/
def attached (f : Form) (s : Session) : Form :=
  { f with session := some s.id }

/-- A form that belongs to a session is attached to it. -/
theorem attach_of_belongsTo {f : Form} {s : Session} (h : f.BelongsTo s) :
    f.attach s = .ok (f.attached s) := by
  obtain ⟨session, fields, index, revisions⟩ := f
  rcases h with h | h
  · cases h
    rfl
  · cases h
    simp [attach, attached]

/-- A form of another session refuses with that as its reason. -/
theorem attach_of_not_belongsTo {f : Form} {s : Session} (h : ¬ f.BelongsTo s) :
    ∃ other, f.attach s = .error (.foreignSession other s.id) := by
  unfold BelongsTo at h
  unfold attach
  split
  next hnone => exact (h (Or.inl hnone)).elim
  next other hother =>
    have hne : other ≠ s.id := fun he => h (Or.inr (he ▸ hother))
    exact ⟨other, if_neg hne⟩

/-- Attaching a form to its session once more changes nothing. -/
theorem attached_of_session {f : Form} {s : Session} (h : f.session = some s.id) :
    f.attached s = f := by
  rw [attached, ← h]

@[simp]
theorem fields_attached (f : Form) (s : Session) : (f.attached s).fields = f.fields :=
  rfl

@[simp]
theorem revisions_attached (f : Form) (s : Session) : (f.attached s).revisions = f.revisions :=
  rfl

@[simp]
theorem isBound_attached (f : Form) (s : Session) (r : FieldRef) :
    (f.attached s).isBound r = f.isBound r :=
  rfl

@[simp]
theorem bound_attached (f : Form) (s : Session) (r : FieldRef) :
    (f.attached s).bound r = f.bound r :=
  rfl

/-! ## Order of the bindings -/

/-- The index and the revisions of a form tell the truth about its fields. -/
structure Consistent (f : Form) : Prop where
  /-- The index gives the place of every field, and of nothing else. -/
  index_iff : ∀ r i, f.index.lookup r = some i ↔ f.fields[i]?.map (·.ref) = some r
  /-- A revision is remembered for the models of the fields, and for no others. -/
  models_iff : ∀ model, f.revisions.contains model = true ↔
    ∃ field ∈ f.fields, field.ref.model = model

theorem consistent_empty : empty.Consistent where
  index_iff r i := by simp [empty]
  models_iff model := by simp [empty, Dict.contains]

section Consistent

variable {f : Form}

/-- Attaching keeps a form consistent. -/
theorem Consistent.attached (h : f.Consistent) (s : Session) : (f.attached s).Consistent :=
  ⟨h.index_iff, h.models_iff⟩

/-- A field is bound exactly if it is one of the fields of the form. -/
theorem Consistent.isBound_iff (h : f.Consistent) (r : FieldRef) :
    f.isBound r = true ↔ ∃ field ∈ f.fields, field.ref = r := by
  unfold isBound
  constructor
  · intro hbound
    obtain ⟨i, hi⟩ := Option.isSome_iff_exists.1 hbound
    obtain ⟨field, hfield, href⟩ := Option.map_eq_some_iff.1 ((h.index_iff r i).1 hi)
    exact ⟨field, List.mem_of_getElem? hfield, href⟩
  · rintro ⟨field, hfield, href⟩
    obtain ⟨i, hi⟩ := List.mem_iff_getElem?.1 hfield
    have hlookup : f.index.lookup r = some i := (h.index_iff r i).2 (by simp [hi, href])
    simp [hlookup]

/-- A consistent form finds exactly its own fields, each under its reference. -/
theorem Consistent.bound_eq_ok_iff (h : f.Consistent) (r : FieldRef) (field : ResolvedField) :
    f.bound r = .ok field ↔ field ∈ f.fields ∧ field.ref = r := by
  have hplace : f.bound r = .ok field ↔
      (f.index.lookup r).bind (fun i => f.fields[i]?) = some field := by
    unfold bound
    split
    next found hfound => simp [hfound]
    next hnone => simp [hnone]
  rw [hplace, Option.bind_eq_some_iff]
  constructor
  · rintro ⟨i, hi, hfield⟩
    have href := (h.index_iff r i).1 hi
    rw [hfield] at href
    exact ⟨List.mem_of_getElem? hfield, Option.some.inj href⟩
  · rintro ⟨hmem, href⟩
    obtain ⟨i, hi⟩ := List.mem_iff_getElem?.1 hmem
    exact ⟨i, (h.index_iff r i).2 (by simp [hi, href]), hi⟩

/-- A consistent form binds exactly the references that it finds a field for. -/
theorem Consistent.isBound_iff_bound (h : f.Consistent) (r : FieldRef) :
    f.isBound r = true ↔ ∃ field, f.bound r = .ok field := by
  rw [h.isBound_iff]
  simp only [h.bound_eq_ok_iff]

/-- A consistent form binds a model exactly if it binds a field of it. -/
theorem Consistent.mem_boundModels_iff (h : f.Consistent) (model : String) :
    model ∈ f.boundModels ↔ ∃ field ∈ f.fields, field.ref.model = model := by
  rw [boundModels, Dict.mem_names_iff, h.models_iff]

/-- A new field takes the next place. -/
theorem Consistent.index_appendField (h : f.Consistent) {field : ResolvedField}
    (hnew : f.isBound field.ref = false) (r : FieldRef) (i : Nat) :
    (f.index ++ [(field.ref, f.fields.length)]).lookup r = some i ↔
      (f.fields ++ [field])[i]?.map (·.ref) = some r := by
  have hplace : ∀ r i, f.index.lookup r = some i → i < f.fields.length := by
    intro r i hi
    obtain ⟨found, hfound, -⟩ := Option.map_eq_some_iff.1 ((h.index_iff r i).1 hi)
    exact (List.getElem?_eq_some_iff.1 hfound).1
  have hnone : f.index.lookup field.ref = none := by
    simpa [isBound] using hnew
  have hlast : List.lookup r [(field.ref, f.fields.length)] =
      if field.ref = r then some f.fields.length else none := by
    rw [List.lookup_cons, List.lookup_nil]
    by_cases href : field.ref = r
    · simp [href]
    · have hbeq : (r == field.ref) = false := by simp [Ne.symm href]
      simp [href, hbeq]
  rw [List.lookup_append, hlast]
  by_cases hi : i < f.fields.length
  · rw [List.getElem?_append_left hi, ← h.index_iff]
    cases hr : f.index.lookup r with
    | some j => simp
    | none =>
      have hne : f.fields.length ≠ i := Nat.ne_of_gt hi
      simp [hne]
  · rw [List.getElem?_append_right (Nat.le_of_not_lt hi)]
    cases hr : f.index.lookup r with
    | some j =>
      have hj : j < f.fields.length := hplace r j hr
      have hne : j ≠ i := fun he => hi (he ▸ hj)
      have href : field.ref ≠ r := by
        rintro rfl
        rw [hnone] at hr
        cases hr
      cases i - f.fields.length <;> simp [hne, href]
    | none =>
      cases hd : i - f.fields.length with
      | zero =>
        have heq : f.fields.length = i := by omega
        simp [heq]
      | succ n =>
        have hne : f.fields.length ≠ i := by omega
        simp [hne]

theorem fields_noteRevision (f : Form) (model : String) (revision : Revision) :
    (f.noteRevision model revision).fields = f.fields := by
  unfold noteRevision
  split <;> rfl

theorem index_noteRevision (f : Form) (model : String) (revision : Revision) :
    (f.noteRevision model revision).index = f.index := by
  unfold noteRevision
  split <;> rfl

theorem session_noteRevision (f : Form) (model : String) (revision : Revision) :
    (f.noteRevision model revision).session = f.session := by
  unfold noteRevision
  split <;> rfl

/-- A model that is bound already keeps the revision remembered for it. -/
theorem syncedRevision?_noteRevision (f : Form) (model other : String) (revision : Revision) :
    (f.noteRevision model revision).syncedRevision? other =
      if model = other ∧ f.syncedRevision? other = none then some revision
      else f.syncedRevision? other := by
  unfold noteRevision syncedRevision?
  split
  next hcontains =>
    obtain ⟨known, hknown⟩ := Dict.contains_eq_true_iff.1 hcontains
    rw [if_neg]
    rintro ⟨rfl, hnone⟩
    rw [hknown] at hnone
    cases hnone
  next hcontains =>
    rw [Dict.get?_insert]
    by_cases hmodel : model = other
    · subst hmodel
      have hnone : f.revisions.get? model = none := by
        simpa [Dict.contains] using hcontains
      simp [hnone]
    · simp [hmodel]

/-- Binding a new field keeps the bindings in order. -/
theorem Consistent.appendField (h : f.Consistent) {field : ResolvedField}
    (hnew : f.isBound field.ref = false) (revision : Revision) :
    ((f.noteRevision field.ref.model revision).appendField field).Consistent where
  index_iff r i := by
    simp only [Form.appendField, fields_noteRevision, index_noteRevision]
    exact h.index_appendField hnew r i
  models_iff model := by
    have hcontains : (f.noteRevision field.ref.model revision).revisions.contains model = true ↔
        field.ref.model = model ∨ f.revisions.contains model = true := by
      unfold noteRevision
      split
      next hold =>
        constructor
        · exact Or.inr
        · rintro (rfl | hin)
          · exact hold
          · exact hin
      next => exact Dict.contains_insert _ _ _ _
    simp only [Form.appendField, fields_noteRevision, hcontains, h.models_iff,
      List.mem_append, List.mem_singleton]
    constructor
    · rintro (hmodel | ⟨old, hold, hmodel⟩)
      · exact ⟨field, Or.inr rfl, hmodel⟩
      · exact ⟨old, Or.inl hold, hmodel⟩
    · rintro ⟨found, hold | rfl, hmodel⟩
      · exact Or.inr ⟨found, hold, hmodel⟩
      · exact Or.inl hmodel

/-- New revisions for the same models keep the bindings in order. -/
theorem Consistent.withRevisions (h : f.Consistent) {revisions : Dict Revision}
    (hnames : ∀ model, revisions.contains model = true ↔ f.revisions.contains model = true) :
    ({ f with revisions := revisions } : Form).Consistent where
  index_iff := h.index_iff
  models_iff model := (hnames model).trans (h.models_iff model)

end Consistent

/-! ## The form and the session after a new field has been bound -/

@[simp]
theorem id_seedField (s : Session) (field : ResolvedField) : (seedField s field).id = s.id :=
  s.id_apply (.seed field)

@[simp]
theorem schema_seedField (s : Session) (field : ResolvedField) :
    (seedField s field).schema = s.schema :=
  s.schema_apply (.seed field)

@[simp]
theorem store_seedField (s : Session) (field : ResolvedField) :
    (seedField s field).store = s.store :=
  s.store_apply (.seed field)

/-- Two fields are seeded independently of each other. -/
theorem seedField_comm {a b : ResolvedField} (h : a.ref ≠ b.ref) (s : Session) :
    seedField (seedField s a) b = seedField (seedField s b) a := by
  cases ha : (s.forms.field? a.ref).any (·.touched) <;>
    cases hb : (s.forms.field? b.ref).any (·.touched) <;>
      simp [seedField, ha, hb, FormState.field?_setField, h, Ne.symm h,
        FormState.setField_comm h]

/-- The form after a field that is new to it has been bound. -/
def withField (f : Form) (s : Session) (field : ResolvedField) : Form :=
  ((f.attached s).noteRevision field.ref.model
    (s.store.revision field.ref.model)).appendField field

section withField

variable {f : Form} {s : Session} {field : ResolvedField}

/-- A new field comes last. -/
@[simp]
theorem fields_withField (f : Form) (s : Session) (field : ResolvedField) :
    (f.withField s field).fields = f.fields ++ [field] := by
  simp [withField, appendField, fields_noteRevision]

/-- A form belongs to the session that it binds a field of. -/
@[simp]
theorem session_withField (f : Form) (s : Session) (field : ResolvedField) :
    (f.withField s field).session = some s.id :=
  session_noteRevision _ _ _

/-- A model that is new to the form is remembered at its current revision. -/
theorem syncedRevision?_withField (f : Form) (s : Session) (field : ResolvedField)
    (model : String) :
    (f.withField s field).syncedRevision? model =
      (f.syncedRevision? model).or
        (if field.ref.model = model then some (s.store.revision model) else none) := by
  have hnote := syncedRevision?_noteRevision (f.attached s) field.ref.model model
    (s.store.revision field.ref.model)
  have hattached : (f.attached s).syncedRevision? model = f.syncedRevision? model := rfl
  rw [hattached] at hnote
  refine Eq.trans hnote ?_
  by_cases hmodel : field.ref.model = model
  · subst hmodel
    cases f.syncedRevision? field.ref.model <;> simp
  · simp [hmodel]

/-- A form stays consistent when it binds a field that it does not have. -/
theorem Consistent.withField (h : f.Consistent) (s : Session)
    (hnew : f.isBound field.ref = false) : (f.withField s field).Consistent :=
  (h.attached s).appendField hnew _

/-- A new field is all that is bound besides the others. -/
theorem Consistent.isBound_withField (h : f.Consistent) (s : Session)
    (hnew : f.isBound field.ref = false) (r : FieldRef) :
    (f.withField s field).isBound r = true ↔ f.isBound r = true ∨ field.ref = r := by
  rw [(h.withField s hnew).isBound_iff, h.isBound_iff, fields_withField]
  simp only [List.mem_append, List.mem_singleton, or_and_right, exists_or, exists_eq_left]

/-- A new field binds no other reference. -/
theorem Consistent.isBound_withField_of_ne (h : f.Consistent) (s : Session)
    (hnew : f.isBound field.ref = false) {r : FieldRef} (hne : field.ref ≠ r)
    (hr : f.isBound r = false) : (f.withField s field).isBound r = false := by
  rw [Bool.eq_false_iff, Ne, h.isBound_withField s hnew]
  simp [hr, hne]

/-- What is bound next does not depend on which fields have been seeded. -/
@[simp]
theorem withField_seedField (f : Form) (s : Session) (other field : ResolvedField) :
    f.withField (seedField s other) field = f.withField s field := by
  simp [withField, attached]

/-- A form still belongs to the session once a field is bound and seeded. -/
theorem belongsTo_withField (f : Form) (s : Session) (field : ResolvedField) :
    (f.withField s field).BelongsTo (seedField s field) := by
  rw [BelongsTo, session_withField, id_seedField]
  exact Or.inr rfl

/-- A form that has bound a field is attached already. -/
@[simp]
theorem attached_withField (f : Form) (s : Session) (field : ResolvedField) :
    (f.withField s field).attached (seedField s field) = f.withField s field := by
  apply attached_of_session
  rw [session_withField, id_seedField]

end withField

/-! ## The form after a commit -/

/-- The form after a commit. -/
def committed (f : Form) (s : Session) : Form :=
  { f.attached s with revisions := Dict.ofList (commitAll s (f.pending s)).1 }

/-- The committed revisions, as the form remembers them. -/
theorem entries_committed (f : Form) (s : Session) :
    (f.committed s).revisions.entries = (commitAll s (f.pending s)).1 := by
  refine Dict.entries_ofList ?_
  have hnames : ((commitAll s (f.pending s)).1.map (·.1)).Pairwise (· < ·) := by
    rw [map_fst_commitAll, map_fst_pending]
    exact f.revisions.pairwise_names
  exact List.pairwise_map.1 hnames

/-- A commit keeps the bound models. -/
@[simp]
theorem boundModels_committed (f : Form) (s : Session) :
    (f.committed s).boundModels = f.boundModels := by
  rw [boundModels, Dict.names, entries_committed, map_fst_commitAll, map_fst_pending]

/-- A revision is recorded for the bound models and for no others. -/
theorem syncedRevision?_eq_none_iff (f : Form) (model : String) :
    f.syncedRevision? model = none ↔ model ∉ f.boundModels := by
  rw [boundModels, Dict.mem_names_iff]
  simp [syncedRevision?, Dict.contains]

/-- A form that has committed is in step with the store in all its models. -/
theorem syncedRevision?_committed {f : Form} {s : Session} {model : String}
    (h : model ∈ f.boundModels) :
    (f.committed s).syncedRevision? model =
      some ((commitAll s (f.pending s)).2.store.revision model) := by
  obtain ⟨revision, hmem, hget⟩ :=
    get?_models_commitAll_of_mem (s := s) (nodup_pending f s) (mem_pending h s)
  rw [← entries_committed] at hmem
  have hsynced : (f.committed s).syncedRevision? model = some revision :=
    (Dict.get?_eq_some_iff _ _ _).2 hmem
  simp [hsynced, ModelStore.revision, hget]

/-! ## The form after its edits have been discarded -/

@[simp]
theorem boundModels_adoptRevisions (f : Form) (s : Session) :
    (f.adoptRevisions s).boundModels = f.boundModels :=
  Dict.names_map _ _

/-- A model with a recorded revision is bound. -/
theorem mem_boundModels_of_syncedRevision? {f : Form} {model : String} {revision : Revision}
    (h : f.syncedRevision? model = some revision) : model ∈ f.boundModels := by
  refine Decidable.byContradiction fun hnot => ?_
  rw [(syncedRevision?_eq_none_iff f model).2 hnot] at h
  cases h

/-- Adopting the revisions records the present one for every bound model. -/
theorem syncedRevision?_adoptRevisions (f : Form) (s : Session) (model : String) :
    (f.adoptRevisions s).syncedRevision? model =
      (f.syncedRevision? model).map fun _ => s.store.revision model :=
  Dict.get?_map _ _ _

/-- A form that has adopted the revisions of its models is in step with the store. -/
theorem syncedRevision?_adoptRevisions_of_mem {f : Form} {s : Session} {model : String}
    (h : model ∈ f.boundModels) :
    (f.adoptRevisions s).syncedRevision? model = some (s.store.revision model) := by
  obtain ⟨revision, hsynced⟩ := Dict.contains_eq_true_iff.1 (Dict.mem_names_iff.1 h)
  have hbefore : f.syncedRevision? model = some revision := hsynced
  rw [syncedRevision?_adoptRevisions, hbefore]
  rfl

/-! ## What a form owes its session -/

/-- What a form that belongs to a session owes it. -/
structure Fits (f : Form) (s : Session) : Prop where
  consistent : f.Consistent
  /-- The models of all bound fields are models of the schema. -/
  known : ∀ field ∈ f.fields, s.schema.models.contains field.ref.model = true
  /-- No remembered revision is ahead of the store. -/
  synced_le : ∀ model revision, f.syncedRevision? model = some revision →
    revision.number ≤ (s.store.revision model).number

/-- What a form owes a session it owes the session as it is later on. -/
theorem Fits.mono {f : Form} {s t : Session} (h : f.Fits s) (hschema : t.schema = s.schema)
    (hle : ∀ model, (s.store.revision model).number ≤ (t.store.revision model).number) :
    f.Fits t where
  consistent := h.consistent
  known field hfield := by
    rw [hschema]
    exact h.known field hfield
  synced_le model revision hsynced :=
    Nat.le_trans (h.synced_le model revision hsynced) (hle model)

theorem fits_empty (s : Session) : empty.Fits s where
  consistent := consistent_empty
  known field hfield := by cases hfield
  synced_le model revision h := by cases h

end Form
end PanelForms

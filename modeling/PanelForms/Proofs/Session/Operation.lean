import PanelForms.Proofs.Session.Binding

/-!
# Operations of a form

Each operation of a form either leaves its session alone or acts on it as a run of elementary
changes, and changes the bindings of the form in one of a few ways.  This module lists the ways
once, as the relation `Form.Effect`; whatever an operation keeps is then shown by cases on it.

Main results:

- Definitions `FormOp` and `Form.perform`: the operations as data.
- Theorem `Form.perform_effect`: every operation has one of the listed effects.
- Theorem `Form.Effect.fits`: every effect keeps the bindings in order.
- Theorem `Form.Effect.syncedRevision?_of_bound`: when a form keeps the revision it remembers.
-/

namespace PanelForms

/-- What may be asked of a form. -/
inductive FormOp where
  | bind (text : String)
  | bindField (field : ResolvedField)
  | edit (r : FieldRef) (value : Json)
  | setActive (r : FieldRef) (active : Bool)
  | submit
  | cancel

/-- The field that an operation asks to bind, if it asks to bind one that a schema resolves. -/
def FormOp.binds? (schema : Schema) : FormOp → Option ResolvedField
  | .bind text => (schema.resolve text).toOption
  | .bindField field => some field
  | _ => none

namespace FormStep

variable {α : Type}

/-- Whether the operation has gone through. -/
def accepted (step : FormStep α) : Bool :=
  step.outcome.toBool

/-- The form and the session after the operation. -/
def after (step : FormStep α) : Form × Session :=
  (step.form, step.session)

end FormStep

namespace Form

/-- The form and the session after an operation. -/
def perform (f : Form) (s : Session) : FormOp → Form × Session
  | .bind text => (f.bind s text).after
  | .bindField field => (f.bindField s field).after
  | .edit r value => (f.edit s r value).after
  | .setActive r active => (f.setActive s r active).after
  | .submit => (f.submit s).after
  | .cancel => (f.cancel s).after

/-- Whether an operation goes through. -/
def accepts (f : Form) (s : Session) : FormOp → Bool
  | .bind text => (f.bind s text).accepted
  | .bindField field => (f.bindField s field).accepted
  | .edit r value => (f.edit s r value).accepted
  | .setActive r active => (f.setActive s r active).accepted
  | .submit => (f.submit s).accepted
  | .cancel => (f.cancel s).accepted

/-! ## What an operation does -/

/-- What an operation makes of its form, and the changes it makes to its session. -/
inductive Effect (f : Form) (s : Session) : FormOp → Form → List Change → Prop where
  | refused {op : FormOp} {f' : Form} (hrefused : f.accepts s op = false)
      (hsame : f' = f ∨ f.BelongsTo s ∧ f' = f.attached s) : Effect f s op f' []
  | rebound {op : FormOp} {field : ResolvedField} (hbelongs : f.BelongsTo s)
      (hbinds : op.binds? s.schema = some field) (hbound : f.isBound field.ref = true) :
      Effect f s op (f.attached s) []
  | bound {op : FormOp} {field : ResolvedField} (hbelongs : f.BelongsTo s)
      (hbinds : op.binds? s.schema = some field) (hnew : f.isBound field.ref = false)
      (hknown : s.schema.models.contains field.ref.model = true) :
      Effect f s op
        (((f.attached s).noteRevision field.ref.model
          (s.store.revision field.ref.model)).appendField field)
        [.seed field]
  | edited {r : FieldRef} {value : Json} {field : ResolvedField} (hbelongs : f.BelongsTo s)
      (hbound : f.bound r = .ok field) :
      Effect f s (.edit r value) (f.attached s) [.edit field value]
  | activated {r : FieldRef} {active : Bool} {field : ResolvedField} (hbelongs : f.BelongsTo s)
      (hbound : f.bound r = .ok field) :
      Effect f s (.setActive r active) (f.attached s) [.activate r active]
  | committed (hbelongs : f.BelongsTo s) (hfault : f.submitFault? s = none) :
      Effect f s .submit (f.committed s) ((f.pending s).map fun p => .commit p.1 p.2)
  | cancelled (hbelongs : f.BelongsTo s) :
      Effect f s .cancel ((f.attached s).adoptRevisions s) (f.boundModels.map .reseed)

section perform

variable {f : Form} {s : Session}

/-- Binding by text binds the field that the text resolves to. -/
theorem binds?_bind {schema : Schema} {text : String} {field : ResolvedField}
    (h : schema.resolve text = .ok field) : (FormOp.bind text).binds? schema = some field := by
  simp [FormOp.binds?, h, Except.toOption]

/-- Binding the text of a reference is binding the field that it resolves to. -/
theorem perform_of_binds {op : FormOp} {field : ResolvedField}
    (h : op.binds? s.schema = some field) : f.perform s op = (f.bindField s field).after := by
  cases op with
  | bind text =>
    cases hresolve : s.schema.resolve text with
    | error e => simp [FormOp.binds?, hresolve, Except.toOption] at h
    | ok found =>
      rw [binds?_bind hresolve] at h
      cases h
      simp [perform, bind, hresolve, FormStep.after]
  | bindField found =>
    cases h
    rfl
  | edit | setActive | submit | cancel => cases h

/-- A form of another session refuses everything and changes nothing. -/
theorem perform_of_not_belongsTo (hbelongs : ¬ f.BelongsTo s) (op : FormOp) :
    f.accepts s op = false ∧ f.perform s op = (f, s) := by
  obtain ⟨other, hattach⟩ := attach_of_not_belongsTo hbelongs
  cases op with
  | bind text =>
    cases hresolve : s.schema.resolve text <;>
      simp [accepts, perform, bind, bindField, hattach, hresolve, FormStep.accepted,
        FormStep.after, Except.toBool, Except.map]
  | bindField field =>
    simp [accepts, perform, bindField, hattach, FormStep.accepted, FormStep.after, Except.toBool]
  | edit r value =>
    simp [accepts, perform, edit, hattach, FormStep.accepted, FormStep.after, Except.toBool]
  | setActive r active =>
    simp [accepts, perform, setActive, hattach, FormStep.accepted, FormStep.after, Except.toBool]
  | submit =>
    simp [accepts, perform, submit, hattach, FormStep.accepted, FormStep.after, Except.toBool]
  | cancel =>
    simp [accepts, perform, cancel, hattach, FormStep.accepted, FormStep.after, Except.toBool]

/-- Binding a field seeds it, unless it is bound already. -/
theorem effect_bindField (hbelongs : f.BelongsTo s) (op : FormOp) (field : ResolvedField)
    (hbinds : op.binds? s.schema = some field)
    (haccepts : f.accepts s op = (f.bindField s field).accepted) :
    ∃ changes, f.Effect s op (f.bindField s field).form changes ∧
      (f.bindField s field).session = s.applyAll changes := by
  have hattach := attach_of_belongsTo hbelongs
  cases hbound : f.isBound field.ref with
  | true =>
    have hstep : f.bindField s field = ⟨.ok (), f.attached s, s⟩ := by
      simp [bindField, hattach, hbound]
    rw [hstep]
    exact ⟨[], .rebound hbelongs hbinds hbound, rfl⟩
  | false =>
    cases hknown : s.schema.models.contains field.ref.model with
    | false =>
      have hstep : f.bindField s field =
          ⟨.error (.unknownModel field.ref.model), f.attached s, s⟩ := by
        simp [bindField, hattach, hbound, hknown]
      rw [hstep] at haccepts ⊢
      exact ⟨[], .refused haccepts (Or.inr ⟨hbelongs, rfl⟩), rfl⟩
    | true =>
      have hstep : f.bindField s field =
          ⟨.ok (), ((f.attached s).noteRevision field.ref.model
            (s.store.revision field.ref.model)).appendField field, seedField s field⟩ := by
        simp [bindField, hattach, hbound, hknown]
      rw [hstep]
      exact ⟨[.seed field], .bound hbelongs hbinds hbound hknown, rfl⟩

/-- An edit changes the state of its field, if that is bound, and nothing else. -/
theorem effect_edit (hbelongs : f.BelongsTo s) (h : f.Consistent) (r : FieldRef) (value : Json) :
    ∃ changes, f.Effect s (.edit r value) (f.edit s r value).form changes ∧
      (f.edit s r value).session = s.applyAll changes := by
  have hattach := attach_of_belongsTo hbelongs
  cases hbound : f.bound r with
  | error e =>
    have hstep : f.edit s r value = ⟨.error e, f.attached s, s⟩ := by
      simp [edit, hattach, hbound]
    have hrefused : f.accepts s (.edit r value) = false := by
      simp [accepts, hstep, FormStep.accepted, Except.toBool]
    rw [hstep]
    exact ⟨[], .refused hrefused (Or.inr ⟨hbelongs, rfl⟩), rfl⟩
  | ok field =>
    -- The form writes to the field it was asked for, the change to the field of the binding.
    have href : field.ref = r := ((h.bound_eq_ok_iff r field).1 hbound).2
    subst href
    have hstep : f.edit s field.ref value =
        ⟨.ok (), f.attached s, s.apply (.edit field value)⟩ := by
      simp [edit, hattach, hbound, Session.apply, Session.editedState]
    rw [hstep]
    exact ⟨[.edit field value], .edited hbelongs hbound, rfl⟩

/-- Showing or hiding changes the state of its field, if that is bound, and nothing else. -/
theorem effect_setActive (hbelongs : f.BelongsTo s) (r : FieldRef) (active : Bool) :
    ∃ changes, f.Effect s (.setActive r active) (f.setActive s r active).form changes ∧
      (f.setActive s r active).session = s.applyAll changes := by
  have hattach := attach_of_belongsTo hbelongs
  cases hbound : f.bound r with
  | error e =>
    have hstep : f.setActive s r active = ⟨.error e, f.attached s, s⟩ := by
      simp [setActive, hattach, hbound]
    have hrefused : f.accepts s (.setActive r active) = false := by
      simp [accepts, hstep, FormStep.accepted, Except.toBool]
    rw [hstep]
    exact ⟨[], .refused hrefused (Or.inr ⟨hbelongs, rfl⟩), rfl⟩
  | ok field =>
    have hform : (f.setActive s r active).form = f.attached s := by
      cases hstate : s.forms.field? r <;> simp [setActive, hattach, hbound, hstate]
    have hsession : (f.setActive s r active).session = s.apply (.activate r active) := by
      cases hstate : s.forms.field? r <;>
        simp [setActive, hattach, hbound, hstate, Session.apply]
    rw [hform, hsession]
    exact ⟨[.activate r active], .activated hbelongs hbound, rfl⟩

/-- A commit that goes through. -/
theorem submit_of_no_fault (hbelongs : f.BelongsTo s) (hfault : f.submitFault? s = none) :
    f.submit s =
      ⟨.ok (commitAll s (f.pending s)).1, f.committed s, (commitAll s (f.pending s)).2⟩ := by
  have hattached : (f.attached s).submitFault? s = none := hfault
  simp only [submit, attach_of_belongsTo hbelongs, hattached]
  rfl

/-- A commit that is refused changes nothing but the attachment. -/
theorem submit_of_fault {e : FormError} (hbelongs : f.BelongsTo s)
    (hfault : f.submitFault? s = some e) : f.submit s = ⟨.error e, f.attached s, s⟩ := by
  have hattached : (f.attached s).submitFault? s = some e := hfault
  simp only [submit, attach_of_belongsTo hbelongs, hattached]

/-- A commit writes the pending records, or nothing at all. -/
theorem effect_submit (hbelongs : f.BelongsTo s) :
    ∃ changes, f.Effect s .submit (f.submit s).form changes ∧
      (f.submit s).session = s.applyAll changes := by
  cases hfault : f.submitFault? s with
  | none =>
    rw [submit_of_no_fault hbelongs hfault]
    exact ⟨_, .committed hbelongs hfault, commitAll_snd s (f.pending s)⟩
  | some e =>
    have hstep := submit_of_fault hbelongs hfault
    have hrefused : f.accepts s .submit = false := by
      simp [accepts, hstep, FormStep.accepted, Except.toBool]
    rw [hstep]
    exact ⟨[], .refused hrefused (Or.inr ⟨hbelongs, rfl⟩), rfl⟩

/-- Edits are discarded by seeding every bound model anew. -/
theorem cancel_of_belongsTo (hbelongs : f.BelongsTo s) :
    f.cancel s = ⟨.ok (), (f.attached s).adoptRevisions s,
      f.boundModels.foldl Session.reseedModel s⟩ := by
  simp only [cancel, attach_of_belongsTo hbelongs]
  rfl

/-- A cancel reseeds the bound models and writes no record. -/
theorem effect_cancel (hbelongs : f.BelongsTo s) :
    ∃ changes, f.Effect s .cancel (f.cancel s).form changes ∧
      (f.cancel s).session = s.applyAll changes := by
  rw [cancel_of_belongsTo hbelongs]
  exact ⟨f.boundModels.map .reseed, .cancelled hbelongs,
    Session.foldl_reseedModel_eq f.boundModels s⟩

/-- Every operation of a form with its bindings in order has one of the listed effects. -/
theorem perform_effect (h : f.BelongsTo s → f.Consistent) (op : FormOp) :
    ∃ changes, f.Effect s op (f.perform s op).1 changes ∧
      (f.perform s op).2 = s.applyAll changes := by
  by_cases hbelongs : f.BelongsTo s
  · cases op with
    | bind text =>
      cases hresolve : s.schema.resolve text with
      | error e =>
        have hstep : f.bind s text = ⟨.error (.unresolved e), f, s⟩ := by
          simp [bind, hresolve]
        have hrefused : f.accepts s (.bind text) = false := by
          simp [accepts, hstep, FormStep.accepted, Except.toBool]
        simp only [perform, hstep]
        exact ⟨[], .refused hrefused (Or.inl rfl), rfl⟩
      | ok field =>
        have hbinds := binds?_bind hresolve
        have haccepts : f.accepts s (.bind text) = (f.bindField s field).accepted := by
          simp only [accepts, bind, hresolve, FormStep.accepted]
          cases (f.bindField s field).outcome <;> rfl
        rw [perform_of_binds hbinds]
        exact effect_bindField hbelongs _ field hbinds haccepts
    | bindField field => exact effect_bindField hbelongs _ field rfl rfl
    | edit r value => exact effect_edit hbelongs (h hbelongs) r value
    | setActive r active => exact effect_setActive hbelongs r active
    | submit => exact effect_submit hbelongs
    | cancel => exact effect_cancel hbelongs
  · obtain ⟨hrefused, hstep⟩ := perform_of_not_belongsTo hbelongs op
    rw [hstep]
    exact ⟨[], .refused hrefused (Or.inl rfl), rfl⟩

end perform

/-! ## What every operation keeps -/

section Effect

variable {f f' : Form} {s : Session} {op : FormOp} {changes : List Change}

/-- A form stays with its session. -/
theorem Effect.session_eq (he : f.Effect s op f' changes) :
    f'.session = f.session ∨ f.BelongsTo s ∧ f'.session = some s.id := by
  cases he with
  | refused hrefused hsame =>
    rcases hsame with rfl | ⟨hbelongs, rfl⟩
    · exact Or.inl rfl
    · exact Or.inr ⟨hbelongs, rfl⟩
  | bound hbelongs =>
    refine Or.inr ⟨hbelongs, ?_⟩
    exact session_noteRevision _ _ _
  | rebound hbelongs => exact Or.inr ⟨hbelongs, rfl⟩
  | edited hbelongs => exact Or.inr ⟨hbelongs, rfl⟩
  | activated hbelongs => exact Or.inr ⟨hbelongs, rfl⟩
  | committed hbelongs => exact Or.inr ⟨hbelongs, rfl⟩
  | cancelled hbelongs => exact Or.inr ⟨hbelongs, rfl⟩

/-- An operation with a form of another session does nothing. -/
theorem Effect.eq_of_not_belongsTo (he : f.Effect s op f' changes) (h : ¬ f.BelongsTo s) :
    f' = f ∧ changes = [] := by
  cases he with
  | refused hrefused hsame =>
    rcases hsame with rfl | ⟨hbelongs, -⟩
    · exact ⟨rfl, rfl⟩
    · exact (h hbelongs).elim
  | bound hbelongs => exact (h hbelongs).elim
  | rebound hbelongs => exact (h hbelongs).elim
  | edited hbelongs => exact (h hbelongs).elim
  | activated hbelongs => exact (h hbelongs).elim
  | committed hbelongs => exact (h hbelongs).elim
  | cancelled hbelongs => exact (h hbelongs).elim

/-- No operation changes which session a form belongs to. -/
theorem Effect.belongsTo_iff (he : f.Effect s op f' changes) {t : Session} (ht : t.id = s.id) :
    f'.BelongsTo t ↔ f.BelongsTo s := by
  unfold BelongsTo
  rw [ht]
  rcases he.session_eq with hsame | ⟨hbelongs, hsession⟩
  · rw [hsame]
  · rw [hsession]
    exact iff_of_true (Or.inr rfl) hbelongs

/-- An operation binds one new field at most, and unbinds none. -/
theorem Effect.fields_eq (he : f.Effect s op f' changes) :
    f'.fields = f.fields ∨ ∃ field, op.binds? s.schema = some field ∧
      s.schema.models.contains field.ref.model = true ∧ f'.fields = f.fields ++ [field] := by
  cases he with
  | refused hrefused hsame =>
    rcases hsame with rfl | ⟨-, rfl⟩
    · exact Or.inl rfl
    · exact Or.inl rfl
  | bound hbelongs hbinds hnew hknown =>
    refine Or.inr ⟨_, hbinds, hknown, ?_⟩
    simp [appendField, fields_noteRevision]
  | rebound | edited | activated | committed | cancelled => exact Or.inl rfl

/-- No operation takes a field from a form. -/
theorem Effect.mem_fields (he : f.Effect s op f' changes) {field : ResolvedField}
    (h : field ∈ f.fields) : field ∈ f'.fields := by
  rcases he.fields_eq with hsame | ⟨new, -, -, hnew⟩
  · rw [hsame]
    exact h
  · rw [hnew]
    exact List.mem_append_left _ h

/-- Every operation keeps the bindings in order. -/
theorem Effect.consistent (he : f.Effect s op f' changes) (h : f.Consistent) :
    f'.Consistent := by
  cases he with
  | refused hrefused hsame =>
    rcases hsame with rfl | ⟨-, rfl⟩
    · exact h
    · exact h.attached s
  | bound hbelongs hbinds hnew hknown => exact (h.attached s).appendField hnew _
  | rebound | edited | activated => exact h.attached s
  | committed =>
    refine (h.attached s).withRevisions fun model => ?_
    have hnames := boundModels_committed f s
    rw [← Dict.mem_names_iff, ← Dict.mem_names_iff]
    exact iff_of_eq (congrArg (model ∈ ·) hnames)
  | cancelled =>
    refine (h.attached s).withRevisions fun model => ?_
    rw [Dict.contains_map]

/-- A field stays bound. -/
theorem Effect.isBound (he : f.Effect s op f' changes) (h : f.Consistent) {r : FieldRef}
    (hbound : f.isBound r = true) : f'.isBound r = true := by
  obtain ⟨field, hfield, href⟩ := (h.isBound_iff r).1 hbound
  exact ((he.consistent h).isBound_iff r).2 ⟨field, he.mem_fields hfield, href⟩

/-- The changes that operations make: a field that has just been bound is seeded, a field is
edited through its binding, and no other change concerns a single binding. -/
theorem Effect.mem_changes (he : f.Effect s op f' changes) {c : Change} (hc : c ∈ changes) :
    (∃ field ∈ f'.fields, s.schema.models.contains field.ref.model = true ∧ c = .seed field) ∨
      (∃ r value field, op = .edit r value ∧ f.BelongsTo s ∧ f.bound r = .ok field ∧
        c = .edit field value) ∨
      (∃ r active, c = .activate r active) ∨ (∃ model record, c = .commit model record) ∨
        ∃ model, c = .reseed model := by
  cases he with
  | refused | rebound => cases hc
  | @bound op field hbelongs hbinds hnew hknown =>
    exact Or.inl ⟨field, by simp [appendField], hknown, List.mem_singleton.1 hc⟩
  | @edited r value field hbelongs hbound =>
    exact Or.inr (Or.inl ⟨r, value, field, rfl, hbelongs, hbound, List.mem_singleton.1 hc⟩)
  | @activated r active =>
    exact Or.inr (Or.inr (Or.inl ⟨r, active, List.mem_singleton.1 hc⟩))
  | committed =>
    obtain ⟨p, -, rfl⟩ := List.mem_map.1 hc
    exact Or.inr (Or.inr (Or.inr (Or.inl ⟨p.1, p.2, rfl⟩)))
  | cancelled =>
    obtain ⟨model, -, rfl⟩ := List.mem_map.1 hc
    exact Or.inr (Or.inr (Or.inr (Or.inr ⟨model, rfl⟩)))

/-- The changes of an operation touch models of the schema only. -/
theorem Effect.knownTo (he : f.Effect s op f' changes) (h : f.Consistent)
    (hknown : ∀ field ∈ f.fields, s.schema.models.contains field.ref.model = true) :
    ∀ c ∈ changes, c.KnownTo s.schema := by
  intro c hc
  rcases he.mem_changes hc with ⟨field, -, hin, rfl⟩ | ⟨r, value, field, -, -, hbound, rfl⟩ |
    ⟨r, active, rfl⟩ | ⟨model, record, rfl⟩ | ⟨model, rfl⟩
  · exact hin
  · exact hknown field ((h.bound_eq_ok_iff r field).1 hbound).1
  · trivial
  · trivial
  · trivial

/-- The changes of an operation seed and edit fields as the schema resolves them, if that is how
they were bound. -/
theorem Effect.resolvedBy (he : f.Effect s op f' changes) (h : f.Consistent)
    (hresolved : ∀ field ∈ f'.fields, s.schema.resolveRef field.ref = .ok field) :
    ∀ c ∈ changes, c.ResolvedBy s.schema := by
  intro c hc
  rcases he.mem_changes hc with ⟨field, hfield, -, rfl⟩ | ⟨r, value, field, -, -, hbound, rfl⟩ |
    ⟨r, active, rfl⟩ | ⟨model, record, rfl⟩ | ⟨model, rfl⟩
  · exact hresolved field hfield
  · exact hresolved field (he.mem_fields ((h.bound_eq_ok_iff r field).1 hbound).1)
  · trivial
  · trivial
  · trivial

/-- For each model a form keeps the revision that it remembers or adopts the current one. -/
theorem Effect.syncedRevision?_eq (he : f.Effect s op f' changes) (model : String) :
    f'.syncedRevision? model = f.syncedRevision? model ∨
      f'.syncedRevision? model = some ((s.applyAll changes).store.revision model) := by
  cases he with
  | refused hrefused hsame =>
    rcases hsame with rfl | ⟨-, rfl⟩
    · exact Or.inl rfl
    · exact Or.inl rfl
  | rebound | edited | activated => exact Or.inl rfl
  | @bound op field =>
    have hsynced := syncedRevision?_noteRevision (f.attached s) field.ref.model model
      (s.store.revision field.ref.model)
    split at hsynced
    next hfirst =>
      refine Or.inr (hsynced.trans ?_)
      rw [Session.applyAll_cons, Session.applyAll_nil, Session.store_apply, hfirst.1]
    next => exact Or.inl hsynced
  | committed =>
    by_cases hmodel : model ∈ f.boundModels
    · refine Or.inr ?_
      rw [← commitAll_snd]
      exact syncedRevision?_committed hmodel
    · have hafter : (f.committed s).syncedRevision? model = none := by
        rw [syncedRevision?_eq_none_iff, boundModels_committed]
        exact hmodel
      have hbefore := (syncedRevision?_eq_none_iff f model).2 hmodel
      exact Or.inl (hafter.trans hbefore.symm)
  | cancelled =>
    rw [← Session.foldl_reseedModel_eq, Session.store_foldl_reseedModel]
    rw [syncedRevision?_adoptRevisions]
    have hattached : (f.attached s).syncedRevision? model = f.syncedRevision? model := rfl
    rw [hattached]
    cases f.syncedRevision? model with
    | none => exact Or.inl rfl
    | some revision => exact Or.inr rfl

/-- A form that binds a model and discards no edits of it keeps the revision remembered for it. -/
theorem Effect.syncedRevision?_of_bound (he : f.Effect s op f' changes) {model : String}
    {revision : Revision} (hsynced : f.syncedRevision? model = some revision)
    (hkeeps : ∀ c ∈ changes, c.discarded? ≠ some model) :
    f'.syncedRevision? model = some revision := by
  have hmodel : model ∈ f.boundModels := mem_boundModels_of_syncedRevision? hsynced
  cases he with
  | refused hrefused hsame =>
    rcases hsame with rfl | ⟨-, rfl⟩
    · exact hsynced
    · exact hsynced
  | rebound | edited | activated => exact hsynced
  | @bound op field =>
    have hnote := syncedRevision?_noteRevision (f.attached s) field.ref.model model
      (s.store.revision field.ref.model)
    rw [if_neg] at hnote
    · exact hnote.trans hsynced
    · rintro ⟨-, hnone⟩
      have hsome : (f.attached s).syncedRevision? model = some revision := hsynced
      rw [hnone] at hsome
      cases hsome
  | committed =>
    refine (hkeeps (.commit model (f.pendingRecord s model)) ?_ rfl).elim
    exact List.mem_map.2 ⟨_, List.mem_map.2 ⟨model, hmodel, rfl⟩, rfl⟩
  | cancelled =>
    exact (hkeeps (.reseed model) (List.mem_map.2 ⟨model, hmodel, rfl⟩) rfl).elim

end Effect

/-- Every operation keeps what a form owes its session. -/
theorem Effect.fits {f f' : Form} {s : Session} {op : FormOp} {changes : List Change}
    (he : f.Effect s op f' changes) (h : f.Fits s)
    (hle : ∀ model, (s.store.revision model).number ≤
      ((s.applyAll changes).store.revision model).number) :
    f'.Fits (s.applyAll changes) where
  consistent := he.consistent h.consistent
  known field hfield := by
    rw [Session.schema_applyAll]
    rcases he.fields_eq with hsame | ⟨new, -, hknown, hnew⟩
    · rw [hsame] at hfield
      exact h.known field hfield
    · rw [hnew, List.mem_append, List.mem_singleton] at hfield
      rcases hfield with hold | rfl
      · exact h.known field hold
      · exact hknown
  synced_le model revision hsynced := by
    rcases he.syncedRevision?_eq model with hsame | hadopted
    · rw [hsame] at hsynced
      exact Nat.le_trans (h.synced_le model revision hsynced) (hle model)
    · rw [hadopted] at hsynced
      cases hsynced
      exact Nat.le_refl _

end Form
end PanelForms

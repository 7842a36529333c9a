import PanelForms.Session.Form

/-!
# Elementary changes of a session

Every operation on a session, whether administrative or made by a form, is a run of a few
elementary changes: a field is seeded, edited or taken into the form or out of it; a record is
replaced or committed; a model is seeded anew; or the subscriptions of the store are attended to.
This module says what each change does to the records, to the revisions and to the editing state
of every field, so that later modules need not open the operations again.

Main results:

- Definitions `Change` and `Session.apply`: the changes and their effect.
- Definition `Session.edit?`: the edit that a field holds.
- Theorems `Session.field?_refreshUntouched` and `Session.field?_reseedModel`: the editing state of
  every field after a record has been replaced and after a model has been seeded anew.
- Theorem `Session.store_apply`: which record each change writes.
-/

namespace PanelForms

/-- What may be done to the subscriptions of a store. -/
inductive SubscriptionOp where
  | subscribe
  | drop (i : Nat)
  | receive (i : Nat)

/-- Attend to the subscriptions of a store. -/
def ModelStore.attend (s : ModelStore) : SubscriptionOp → ModelStore
  | .subscribe => s.subscribe
  | .drop i => s.drop i
  | .receive i => s.receive i

/-- Subscriptions leave the records alone. -/
@[simp]
theorem ModelStore.models_attend (s : ModelStore) (op : SubscriptionOp) :
    (s.attend op).models = s.models := by
  cases op <;> rfl

/-- Subscriptions leave the stamps alone. -/
@[simp]
theorem ModelStore.lastStamp_attend (s : ModelStore) (op : SubscriptionOp) :
    (s.attend op).lastStamp = s.lastStamp := by
  cases op <;> rfl

/-- An elementary change of a session. -/
inductive Change where
  | seed (field : ResolvedField)
  | edit (field : ResolvedField) (value : Json)
  | activate (r : FieldRef) (active : Bool)
  | replace (model : String) (record : ModelRecord)
  | commit (model : String) (record : ModelRecord)
  | reseed (model : String)
  | attend (op : SubscriptionOp)

namespace Change

/-- The model that a change seeds anew with all edits of it discarded, if there is one. -/
def discarded? : Change → Option String
  | .commit model _ | .reseed model => some model
  | _ => none

/-- The field that a change edits, if it edits one. -/
def edited? : Change → Option FieldRef
  | .edit field _ => some field.ref
  | _ => none

end Change

namespace FieldState

/-- The edit that a state stands for: its value, if the user has entered it. -/
def edit? (s : FieldState) : Option Json :=
  if s.touched then some s.value else none

/-- An edit is the value of a state that was touched. -/
theorem edit?_eq_some_iff {s : FieldState} {value : Json} :
    s.edit? = some value ↔ s.touched = true ∧ s.value = value := by
  simp [edit?]

@[simp]
theorem edit?_seeded (canonical : Option Json) (t : FieldType) :
    (seeded canonical t).edit? = none :=
  rfl

@[simp]
theorem edit?_edited (s : FieldState) (value : Json) (t : FieldType) :
    (s.edited value t).edit? = some value :=
  rfl

@[simp]
theorem edit?_setActive (s : FieldState) (active : Bool) : (s.setActive active).edit? = s.edit? :=
  rfl

end FieldState

/-- Following a replaced record keeps every edit. -/
theorem Session.edit?_refreshed (previous : Option FieldState) (canonical : Option Json)
    (t : FieldType) : (refreshed previous canonical t).edit? = previous.bind FieldState.edit? := by
  cases previous with
  | none => rfl
  | some state =>
    cases h : state.touched with
    | true => simp [refreshed, h]
    | false => simp [refreshed, h, FieldState.edit?, FieldState.setActive, FieldState.seeded]

namespace Session

/-- The editing state of a field after an edit of it by the user. -/
def editedState (s : Session) (field : ResolvedField) (value : Json) : FieldState :=
  ((s.forms.field? field.ref).getD (.seeded none field.fieldType)).edited value field.fieldType

/-- The session after a change. -/
def apply (s : Session) : Change → Session
  | .seed field => Form.seedField s field
  | .edit field value =>
    { s with forms := s.forms.setField field.ref (s.editedState field value) }
  | .activate r active =>
    match s.forms.field? r with
    | none => s
    | some state => { s with forms := s.forms.setField r (state.setActive active) }
  | .replace model record => s.replaceModel model record
  | .commit model record => Form.commitModel s model record
  | .reseed model => s.reseedModel model
  | .attend op => { s with store := s.store.attend op }

/-- The session after several changes. -/
def applyAll (s : Session) (changes : List Change) : Session :=
  changes.foldl apply s

@[simp]
theorem applyAll_nil (s : Session) : s.applyAll [] = s :=
  rfl

@[simp]
theorem applyAll_cons (s : Session) (c : Change) (changes : List Change) :
    s.applyAll (c :: changes) = (s.apply c).applyAll changes :=
  rfl

/-- What every change keeps, several changes keep. -/
theorem applyAll_induction {motive : Session → Prop} {changes : List Change} {s : Session}
    (h : motive s) (hstep : ∀ s c, c ∈ changes → motive s → motive (s.apply c)) :
    motive (s.applyAll changes) := by
  induction changes generalizing s with
  | nil => exact h
  | cons c rest ih =>
    have hone : motive (s.apply c) := hstep s c List.mem_cons_self h
    exact ih hone fun s' c' hc' => hstep s' c' (List.mem_cons_of_mem _ hc')

/-! ## Seeding a model anew -/

/-- Reseeding writes the states of a model anew from its record. -/
theorem reseedModel_of_get? {s : Session} {model : String} {fields : ModelSchema}
    (h : s.schema.models.get? model = some fields) :
    s.reseedModel model =
      { s with forms := Dict.insert s.forms model (.ofRecord (s.store.record? model) fields) } := by
  simp [reseedModel, h]

/-- Reseeding an unknown model changes nothing. -/
theorem reseedModel_of_unknown {s : Session} {model : String}
    (h : s.schema.models.get? model = none) : s.reseedModel model = s := by
  simp [reseedModel, h]

@[simp]
theorem id_reseedModel (s : Session) (model : String) : (s.reseedModel model).id = s.id := by
  unfold reseedModel
  split <;> rfl

@[simp]
theorem schema_reseedModel (s : Session) (model : String) :
    (s.reseedModel model).schema = s.schema := by
  unfold reseedModel
  split <;> rfl

@[simp]
theorem store_reseedModel (s : Session) (model : String) :
    (s.reseedModel model).store = s.store := by
  unfold reseedModel
  split <;> rfl

/-- Seeding one model leaves the editing state of every other model alone. -/
theorem get?_forms_reseedModel_of_ne {s : Session} {model other : String} (h : model ≠ other) :
    Dict.get? (s.reseedModel model).forms other = Dict.get? s.forms other := by
  unfold reseedModel
  split
  · simp [Dict.get?_insert, h]
  · rfl

/-- After a model of the schema has been seeded, each of its fields has the fresh state for its
canonical value, and the fields of other models keep theirs. -/
theorem field?_reseedModel (s : Session) (model : String) (r : FieldRef) :
    (s.reseedModel model).forms.field? r =
      if model = r.model ∧ s.schema.models.contains model = true then
        (s.schema.field? r).map fun d => .seeded (s.store.fieldValue? r) d.fieldType
      else s.forms.field? r := by
  cases hget : s.schema.models.get? model with
  | none =>
    have hcontains : ¬ s.schema.models.contains model = true := by
      simp [Dict.contains, hget]
    rw [reseedModel_of_unknown hget, if_neg fun h => hcontains h.2]
  | some fields =>
    have hcontains : s.schema.models.contains model = true := by
      simp [Dict.contains, hget]
    rw [reseedModel_of_get? hget]
    by_cases hmodel : model = r.model
    · subst hmodel
      rw [if_pos ⟨rfl, hcontains⟩]
      simp only [FormState.field?, Dict.get?_insert_self, Option.bind_some,
        ModelFormState.get?_ofRecord, Schema.field?, hget]
      rfl
    · rw [if_neg fun h => hmodel h.1]
      simp [FormState.field?, Dict.get?_insert, hmodel]

/-- Reseeding makes states for the model, if it is known, and keeps those of the others. -/
theorem contains_forms_reseedModel (s : Session) (model other : String) :
    Dict.contains (s.reseedModel model).forms other = true ↔
      (model = other ∧ s.schema.models.contains model = true) ∨
        Dict.contains s.forms other = true := by
  cases hget : s.schema.models.get? model with
  | none => simp [reseedModel_of_unknown hget, Dict.contains, hget]
  | some fields =>
    rw [reseedModel_of_get? hget, Dict.contains_insert]
    simp [Dict.contains, hget]

/-! ## Following a replaced record -/

/-- Refreshing takes over the stored value of every field of the model that was not touched. -/
theorem refreshUntouched_of_get? {s : Session} {model : String} {fields : ModelSchema}
    {current : ModelFormState} (hfields : s.schema.models.get? model = some fields)
    (hcurrent : Dict.get? s.forms model = some current) :
    s.refreshUntouched model =
      { s with forms := Dict.insert s.forms model (fields.map fun name d =>
          refreshed (current.get? name) ((s.store.record? model).bind (·.get? name))
            d.fieldType) } := by
  simp [refreshUntouched, hfields, hcurrent]

/-- Refreshing a model that is unknown or has no states changes nothing. -/
theorem refreshUntouched_of_unknown {s : Session} {model : String}
    (h : ¬ (s.schema.models.contains model = true ∧ Dict.contains s.forms model = true)) :
    s.refreshUntouched model = s := by
  unfold refreshUntouched
  split
  next fields current hfields hcurrent =>
    refine (h ⟨?_, ?_⟩).elim
    · exact Dict.contains_eq_true_iff.2 ⟨fields, hfields⟩
    · exact Dict.contains_eq_true_iff.2 ⟨current, hcurrent⟩
  next => rfl

@[simp]
theorem id_refreshUntouched (s : Session) (model : String) :
    (s.refreshUntouched model).id = s.id := by
  unfold refreshUntouched
  split <;> rfl

@[simp]
theorem schema_refreshUntouched (s : Session) (model : String) :
    (s.refreshUntouched model).schema = s.schema := by
  unfold refreshUntouched
  split <;> rfl

@[simp]
theorem store_refreshUntouched (s : Session) (model : String) :
    (s.refreshUntouched model).store = s.store := by
  unfold refreshUntouched
  split <;> rfl

/-- When a model with editing state follows its record, each field that the schema gives it is
refreshed; the fields of other models keep their state. -/
theorem field?_refreshUntouched (s : Session) (model : String) (r : FieldRef) :
    (s.refreshUntouched model).forms.field? r =
      if model = r.model ∧ s.schema.models.contains model = true ∧
          Dict.contains s.forms model = true then
        (s.schema.field? r).map fun d =>
          refreshed (s.forms.field? r) (s.store.fieldValue? r) d.fieldType
      else s.forms.field? r := by
  by_cases hknown : s.schema.models.contains model = true ∧ Dict.contains s.forms model = true
  · obtain ⟨fields, hfields⟩ := Dict.contains_eq_true_iff.1 hknown.1
    obtain ⟨current, hcurrent⟩ := Dict.contains_eq_true_iff.1 hknown.2
    rw [refreshUntouched_of_get? hfields hcurrent]
    by_cases hmodel : model = r.model
    · subst hmodel
      rw [if_pos ⟨rfl, hknown⟩]
      simp only [FormState.field?, Dict.get?_insert_self, Option.bind_some, Dict.get?_map,
        Schema.field?, hfields, hcurrent]
      rfl
    · rw [if_neg fun h => hmodel h.1]
      simp [FormState.field?, Dict.get?_insert, hmodel]
  · rw [refreshUntouched_of_unknown hknown, if_neg fun h => hknown h.2]

/-- Refreshing makes states for no model. -/
theorem contains_forms_refreshUntouched (s : Session) (model other : String) :
    Dict.contains (s.refreshUntouched model).forms other = true ↔
      Dict.contains s.forms other = true := by
  by_cases hknown : s.schema.models.contains model = true ∧ Dict.contains s.forms model = true
  · obtain ⟨fields, hfields⟩ := Dict.contains_eq_true_iff.1 hknown.1
    obtain ⟨current, hcurrent⟩ := Dict.contains_eq_true_iff.1 hknown.2
    rw [refreshUntouched_of_get? hfields hcurrent, Dict.contains_insert]
    constructor
    · rintro (rfl | h)
      · exact hknown.2
      · exact h
    · exact Or.inr
  · rw [refreshUntouched_of_unknown hknown]

/-! ## Records and revisions -/

@[simp]
theorem id_apply (s : Session) (c : Change) : (s.apply c).id = s.id := by
  cases c with
  | seed field => simp only [apply, Form.seedField]; split <;> rfl
  | edit field value => rfl
  | activate r active => simp only [apply]; split <;> rfl
  | replace model record => simp [apply, replaceModel]
  | commit model record => simp [apply, Form.commitModel]
  | reseed model => simp [apply]
  | attend op => rfl

@[simp]
theorem schema_apply (s : Session) (c : Change) : (s.apply c).schema = s.schema := by
  cases c with
  | seed field => simp only [apply, Form.seedField]; split <;> rfl
  | edit field value => rfl
  | activate r active => simp only [apply]; split <;> rfl
  | replace model record => simp [apply, replaceModel]
  | commit model record => simp [apply, Form.commitModel]
  | reseed model => simp [apply]
  | attend op => rfl

@[simp]
theorem id_applyAll (s : Session) (changes : List Change) : (s.applyAll changes).id = s.id := by
  induction changes generalizing s with
  | nil => rfl
  | cons c rest ih => exact (ih (s.apply c)).trans (id_apply s c)

@[simp]
theorem schema_applyAll (s : Session) (changes : List Change) :
    (s.applyAll changes).schema = s.schema := by
  induction changes generalizing s with
  | nil => rfl
  | cons c rest ih => exact (ih (s.apply c)).trans (schema_apply s c)

/-- Seeding models one after another is a run of changes. -/
theorem foldl_reseedModel_eq (models : List String) (s : Session) :
    models.foldl reseedModel s = s.applyAll (models.map .reseed) := by
  rw [applyAll, List.foldl_map]
  rfl

@[simp]
theorem schema_foldl_reseedModel (models : List String) (s : Session) :
    (models.foldl reseedModel s).schema = s.schema := by
  rw [foldl_reseedModel_eq, schema_applyAll]

@[simp]
theorem id_foldl_reseedModel (models : List String) (s : Session) :
    (models.foldl reseedModel s).id = s.id := by
  rw [foldl_reseedModel_eq, id_applyAll]

theorem store_foldl_reseedModel (models : List String) (s : Session) :
    (models.foldl reseedModel s).store = s.store := by
  induction models generalizing s with
  | nil => rfl
  | cons model rest ih => rw [List.foldl_cons, ih, store_reseedModel]

/-- A change writes one record or touches the subscriptions only. -/
theorem store_apply (s : Session) (c : Change) :
    (s.apply c).store =
      match c with
      | .replace model record | .commit model record => s.store.update model record
      | .attend op => s.store.attend op
      | _ => s.store := by
  cases c with
  | seed field => simp only [apply, Form.seedField]; split <;> rfl
  | edit field value => rfl
  | activate r active => simp only [apply]; split <;> rfl
  | replace model record => simp [apply, replaceModel]
  | commit model record => simp [apply, Form.commitModel]
  | reseed model => simp [apply]
  | attend op => rfl

/-! ## The edit that a field holds -/

/-- The edit that a field holds: the value that the user has entered since the field was last
seeded. -/
def edit? (s : Session) (r : FieldRef) : Option Json :=
  (s.forms.field? r).bind FieldState.edit?

/-- An edit of a session is the value of a field that was touched. -/
theorem edit?_eq_some_iff {s : Session} {r : FieldRef} {value : Json} :
    s.edit? r = some value ↔
      ∃ state, s.forms.field? r = some state ∧ state.touched = true ∧ state.value = value := by
  rw [edit?, Option.bind_eq_some_iff]
  simp only [FieldState.edit?_eq_some_iff]

/-- A field was touched exactly if it holds an edit. -/
theorem any_touched_eq (s : Session) (r : FieldRef) :
    (s.forms.field? r).any (·.touched) = (s.edit? r).isSome := by
  unfold edit?
  cases s.forms.field? r with
  | none => rfl
  | some state => cases h : state.touched <;> simp [FieldState.edit?, h]

/-- Binding a field seeds it only if it holds no edit. -/
theorem field?_seedField (s : Session) (field : ResolvedField) (r : FieldRef) :
    (Form.seedField s field).forms.field? r =
      if field.ref = r ∧ s.edit? r = none then
        some (.seeded (s.store.fieldValue? r) field.fieldType)
      else s.forms.field? r := by
  rw [Form.seedField, any_touched_eq]
  by_cases href : field.ref = r
  · subst href
    cases hedit : s.edit? field.ref with
    | none => simp [FormState.field?_setField]
    | some value => simp
  · have hother : ¬ (field.ref = r ∧ s.edit? r = none) := fun h => href h.1
    rw [if_neg hother]
    cases hedit : s.edit? field.ref with
    | none => simp [FormState.field?_setField, href]
    | some value => simp

/-- Showing or hiding a field changes the state of that field only. -/
theorem field?_apply_activate (s : Session) (r other : FieldRef) (active : Bool) :
    (s.apply (.activate r active)).forms.field? other =
      (s.forms.field? other).map fun state =>
        if r = other then state.setActive active else state := by
  simp only [apply]
  split
  next hnone =>
    by_cases href : r = other
    · subst href
      simp [hnone]
    · simp [href]
  next state hstate =>
    by_cases href : r = other
    · subst href
      simp [FormState.field?_setField, hstate]
    · simp [FormState.field?_setField, href]

end Session
end PanelForms

import PanelForms.Field.Validation
import PanelForms.Schema.Basic

/-!
# Editing state of fields

While a form is open every field has an editing state: the value shown, whether it is valid,
whether the user has touched it since it was last seeded, and whether it takes part in the form.

Main definitions:

- `FieldState.seeded`, `FieldState.edited`: the two ways a state comes about.
- `FormState`: the editing states of all models.
- `ModelFormState.ofRecord`: fresh states of every field of a model.
-/

namespace PanelForms

/-- The editing state of a field. -/
structure FieldState where
  value : Json
  valid : Bool
  touched : Bool
  active : Bool
  deriving DecidableEq

namespace FieldState

/-- The fresh state for a canonical value; a missing value is null. -/
def seeded (canonical : Option Json) (t : FieldType) : FieldState :=
  let value := canonical.getD .null
  ⟨value, t.validates value, false, true⟩

/-- The state after an edit by the user. -/
def edited (s : FieldState) (value : Json) (t : FieldType) : FieldState :=
  ⟨value, t.validates value, true, s.active⟩

/-- Take the field into the form or out of it. -/
def setActive (s : FieldState) (active : Bool) : FieldState :=
  { s with active := active }

/-- Whether the field makes its form dirty. -/
def isDirty (s : FieldState) : Bool :=
  s.active && s.touched

/-- Whether the field keeps its form from being submitted. -/
def blocksSubmit (s : FieldState) : Bool :=
  s.active && !s.valid

end FieldState

/-- The editing states of the fields of a model. -/
abbrev ModelFormState := Dict FieldState

/-- Fresh states of every field that the schema gives a model. -/
def ModelFormState.ofRecord (record : Option ModelRecord) (fields : ModelSchema) :
    ModelFormState :=
  fields.map fun name d => .seeded (record.bind (·.get? name)) d.fieldType

/-- Every field of a model is seeded from the record. -/
theorem ModelFormState.get?_ofRecord (record : Option ModelRecord) (fields : ModelSchema)
    (name : String) :
    Dict.get? (ofRecord record fields) name =
      (fields.get? name).map fun d => .seeded (record.bind (·.get? name)) d.fieldType :=
  Dict.get?_map _ fields name

/-- The editing states of the fields of all models. -/
abbrev FormState := Dict ModelFormState

namespace FormState

/-- The editing state of a field. -/
def field? (s : FormState) (r : FieldRef) : Option FieldState :=
  (Dict.get? s r.model).bind fun model => model.get? r.field

/-- Set the editing state of a field, which may be the first one of its model. -/
def setField (s : FormState) (r : FieldRef) (state : FieldState) : FormState :=
  Dict.insert s r.model (((Dict.get? s r.model).getD Dict.empty).insert r.field state)

theorem contains_setField (s : FormState) (r : FieldRef) (state : FieldState) (model : String) :
    Dict.contains (s.setField r state) model = true ↔
      r.model = model ∨ Dict.contains s model = true :=
  Dict.contains_insert _ _ _ _

/-- Look-up after a write. -/
theorem field?_setField (s : FormState) (r other : FieldRef) (state : FieldState) :
    (s.setField r state).field? other = if r = other then some state else s.field? other := by
  obtain ⟨model, field⟩ := other
  by_cases hmodel : r.model = model
  · subst hmodel
    by_cases hfield : r.field = field
    · subst hfield
      simp [field?, setField]
    · have hne : r ≠ ⟨r.model, field⟩ := fun he => hfield (congrArg FieldRef.field he)
      rw [if_neg hne]
      cases hget : Dict.get? s r.model <;>
        simp [field?, setField, Dict.get?_insert, hfield, hget]
  · have hne : r ≠ ⟨model, field⟩ := fun he => hmodel (congrArg FieldRef.model he)
    simp [field?, setField, Dict.get?_insert, hmodel, hne]

/-- The editing states of two fields may be set in either order. -/
theorem setField_comm {r other : FieldRef} (h : r ≠ other) (s : FormState)
    (state state' : FieldState) :
    (s.setField r state).setField other state' = (s.setField other state').setField r state := by
  obtain ⟨model, field⟩ := r
  obtain ⟨model', field'⟩ := other
  by_cases hmodel : model = model'
  · subst hmodel
    have hfield : field ≠ field' := fun he => h (by rw [he])
    simp only [setField, Dict.get?_insert_self, Option.getD_some, Dict.insert_insert]
    rw [Dict.insert_comm hfield]
  · simp only [setField, Dict.get?_insert, if_neg hmodel, if_neg (Ne.symm hmodel)]
    exact Dict.insert_comm hmodel _ _ _

/-- A field with editing state belongs to a model with editing state. -/
theorem contains_of_field? {s : FormState} {r : FieldRef} {state : FieldState}
    (h : s.field? r = some state) : Dict.contains s r.model = true := by
  obtain ⟨states, hstates, -⟩ := Option.bind_eq_some_iff.1 h
  exact Dict.contains_eq_true_iff.2 ⟨states, hstates⟩

end FormState
end PanelForms

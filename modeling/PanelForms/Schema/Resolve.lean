import PanelForms.Schema.Basic

/-!
# Resolution of references

A reference is bound to the definition that a schema gives its field.

Main definitions:

- `ResolvedField`: a reference with its definition.
- `Schema.resolveRef`, `Schema.resolve`: resolution of a reference and of its text.
- `Schema.resolveView`: the bindings of the fields that a view edits.
-/

namespace PanelForms

/-- Why a reference has no binding. -/
inductive ResolveError where
  | reference (error : FieldRefError)
  | unknownModel (model : String)
  | unknownField (ref : FieldRef)
  deriving DecidableEq

namespace ResolveError

/-- What is reported. -/
def message : ResolveError → String
  | .reference e => e.message
  | .unknownModel model => "schema has no model " ++ Text.quoted model
  | .unknownField ref => "schema has no field " ++ ref.text

/-- The messages of the errors below this one. -/
def causes : ResolveError → List String
  | .reference e => [e.message]
  | _ => []

end ResolveError

/-- A reference with the definition of its field. -/
structure ResolvedField where
  ref : FieldRef
  fieldType : FieldType
  displayName : String
  description : Option String
  deriving DecidableEq

namespace Schema

/-- The binding of a parsed reference. -/
def resolveRef (s : Schema) (r : FieldRef) : Except ResolveError ResolvedField :=
  match s.models.get? r.model with
  | none => .error (.unknownModel r.model)
  | some model =>
    match model.get? r.field with
    | none => .error (.unknownField r)
    | some d => .ok ⟨r, d.fieldType, d.displayName, d.description⟩

/-- The binding of the text of a reference. -/
def resolve (s : Schema) (text : String) : Except ResolveError ResolvedField :=
  match FieldRef.parse text with
  | .error e => .error (.reference e)
  | .ok r => s.resolveRef r

/-- The bindings of the fields that a view edits, each one once in document order. -/
def resolveView (s : Schema) (v : View) : Except ResolveError (List ResolvedField) :=
  match v.formDependencies with
  | .error e => .error (.reference e)
  | .ok refs => refs.mapM s.resolveRef

end Schema
end PanelForms

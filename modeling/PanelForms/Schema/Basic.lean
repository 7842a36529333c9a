import PanelForms.Field.Registry
import PanelForms.Schema.Layout

/-!
# Schemas

A schema defines the fields of every model and the views that edit them.  Every reference of its
views names a field that it defines.

Main definitions:

- `FieldDef`, `ModelSchema`, `Schema`.
- `Schema.checkViews`: the first dangling reference of the views.
- `Schema.ofParts`: a schema from its models and views.
- `Schema.defaultModel?`: the record that the defaults of a model make.
-/

namespace PanelForms

/-- The definition of a field. -/
structure FieldDef where
  displayName : String
  fieldType : FieldType
  defaultValue : Option Json
  description : Option String
  deriving DecidableEq

/-- The fields of a model by name. -/
abbrev ModelSchema := Dict FieldDef

/-- The models and views of an application. -/
structure Schema where
  models : Dict ModelSchema
  views : List View

namespace Schema

/-- The definition of a field. -/
def field? (s : Schema) (r : FieldRef) : Option FieldDef :=
  (s.models.get? r.model).bind fun model => model.get? r.field

/-- The first view with a name. -/
def view? (s : Schema) (name : String) : Option View :=
  s.views.find? (·.name == name)

/-- What is wrong with a reference of a view, if anything is. -/
def refFault? (s : Schema) (view ref : String) : Option SchemaError :=
  match FieldRef.parse ref with
  | .error e => some (.badReference view e)
  | .ok r => if (s.field? r).isSome then none else some (.unknownField view r)

/-- The error of the first offending reference, the views in order and in each view the edited
references before those of its reports. -/
def checkViews (s : Schema) : Option SchemaError :=
  s.views.findSome? fun view => view.allRefs.findSome? (s.refFault? view.name)

/-- Accept a schema whose views refer to its fields only. -/
def checked (s : Schema) : Except SchemaError Schema :=
  match s.checkViews with
  | some e => .error e
  | none => .ok s

/-- The schema of some models and views. -/
def ofParts (models : Dict ModelSchema) (views : List View) : Except SchemaError Schema :=
  checked ⟨models, views⟩

/-- The record of the defaults of a model; a field without a default is left out. -/
def defaultModel? (s : Schema) (name : String) : Option ModelRecord :=
  (s.models.get? name).map fun model => model.filterMap fun _ field => field.defaultValue

end Schema
end PanelForms

import PanelForms.Field.Basic
import PanelForms.Schema.Error

/-!
# Named field types

A schema names the types of its fields.  Every application shares the built-in names; a schema
adds types of its own, each built from a base kind and a configuration.

Main definitions:

- `TypeRegistry.builtin`: the shared names.
- `FieldType.ofConfig`: the type of a base kind and a configuration.
- `TypeRegistry.define`: add or replace a configured type.
-/

namespace PanelForms

/-- Field types by name. -/
abbrev TypeRegistry := Dict FieldType

namespace FieldType

/-- Whether a configured type is required, which it is unless its configuration says otherwise. -/
def configuredRequired (config : Entries Json) : Except TypeConfigFault Bool :=
  match Entries.get? "isRequired" config with
  | none => .ok true
  | some (.bool b) => .ok b
  | some got => .error (.requirednessNotAFlag got)

/-- One allowed value: a pair of scalars, read as text. -/
def configuredChoice (item : Json) : Except TypeConfigFault Choice :=
  match item with
  | .array [value, label] =>
    match value.scalarText?, label.scalarText? with
    | none, _ => .error (.choiceValueNotAScalar value)
    | some _, none => .error (.choiceLabelNotAScalar label)
    | some value, some label => .ok ⟨value, label⟩
  | got => .error (.choiceNotAPair got)

/-- The allowed values in order; none are configured if the list is absent. -/
def configuredChoices (config : Entries Json) : Except TypeConfigFault (List Choice) :=
  match Entries.get? "allowedValues" config with
  | none => .ok []
  | some (.array items) => items.mapM configuredChoice
  | some got => .error (.choicesNotAList got)

/-- The filter on file names, if one is configured. -/
def configuredPattern (config : Entries Json) : Except TypeConfigFault (Option FilePattern) :=
  match Entries.get? "pattern" config with
  | none | some .null => .ok none
  | some (.string source) =>
    match FilePattern.compile? source with
    | some pattern => .ok (some pattern)
    | none => .error .patternMalformed
  | some got => .error (.patternNotText got)

/-- A name that the configuration must give. -/
def configuredName (key : String) (config : Entries Json) : Except TypeConfigFault String :=
  match Entries.get? key config with
  | some (.string s) => if s.isEmpty then .error (.nameMissing key (some (.string s))) else .ok s
  | got => .error (.nameMissing key got)

/-- The type that a base kind and a configuration denote, under the name it will have.  The
requiredness is read first. -/
def ofConfig (name base : String) (config : Entries Json) : Except SchemaError FieldType := do
  let fault {α : Type} (r : Except TypeConfigFault α) : Except SchemaError α :=
    r.mapError (.badTypeConfig name)
  let required ← fault (configuredRequired config)
  match base with
  | "Enum" => return ⟨.choice (← fault (configuredChoices config)), required⟩
  | "File" => return ⟨.file (← fault (configuredPattern config)), required⟩
  | "StatefulComputeEnum" =>
    let method ← fault (configuredName "computeMethod" config)
    let resultName ← fault (configuredName "resultName" config)
    return ⟨.computed ⟨method, resultName⟩, required⟩
  | _ => throw (.unknownBase name base)

end FieldType

namespace TypeRegistry

/-- The names that every application shares. -/
def builtin : TypeRegistry :=
  Dict.ofList [
    ("String", ⟨.text, true⟩), ("OptionalString", ⟨.text, false⟩), ("Text", ⟨.text, false⟩),
    ("Float", ⟨.float, true⟩), ("OptionalFloat", ⟨.float, false⟩),
    ("Integer", ⟨.integer, true⟩), ("OptionalInteger", ⟨.integer, false⟩),
    ("Boolean", ⟨.boolean, true⟩), ("OptionalBoolean", ⟨.boolean, false⟩),
    ("File", ⟨.file none, true⟩), ("OptionalFile", ⟨.file none, false⟩)]

/-- Add a configured type, which replaces a type of the same name. -/
def define (registry : TypeRegistry) (name base : String) (config : Entries Json) :
    Except SchemaError TypeRegistry :=
  (FieldType.ofConfig name base config).map fun t => Dict.insert registry name t

end TypeRegistry
end PanelForms

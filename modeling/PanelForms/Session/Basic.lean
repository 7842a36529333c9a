import PanelForms.Field.State
import PanelForms.Field.Wire
import PanelForms.Schema.Resolve
import PanelForms.Store

/-!
# Editing sessions

A session joins a schema with the canonical records and the editing states that all forms on it
share.  A record may be replaced while forms are open: fields the user has touched keep their
edits, all others follow the new record.

Main definitions:

- `Session`: the state.
- `Session.replaceModel`, `Session.loadModels`, `Session.fillMissingDefaults`,
  `Session.initializeForms`: administrative replacements and seeding.
- `Session.reseedModel`: fresh editing states of a model.
- `Session.wireModels`: all records in wire form.
-/

namespace PanelForms

/-- What tells sessions apart. -/
structure SessionId where
  number : Nat
  deriving DecidableEq

/-- How a session is named in messages. -/
def SessionId.text (id : SessionId) : String :=
  "session-" ++ toString id.number

/-- A field of a record that has no wire form. -/
structure RecordEncodeError where
  ref : FieldRef
  error : EncodeError
  deriving DecidableEq

namespace RecordEncodeError

/-- What is reported. -/
def message (e : RecordEncodeError) : String :=
  "cannot serialize " ++ e.ref.text ++ ": " ++ e.error.message

/-- The messages of the errors below this one. -/
def causes (e : RecordEncodeError) : List String :=
  [e.error.message]

end RecordEncodeError

/-- A schema, the canonical records and the editing states over it. -/
structure Session where
  id : SessionId
  schema : Schema
  store : ModelStore
  forms : FormState

namespace Session

/-- A session without records. -/
def new (id : SessionId) (schema : Schema) : Session :=
  ⟨id, schema, .empty, Dict.empty⟩

/-- The editing state of a field after its record has been replaced: kept if touched, else seeded
anew with the activity it had. -/
def refreshed (previous : Option FieldState) (canonical : Option Json) (t : FieldType) :
    FieldState :=
  match previous with
  | some state =>
    if state.touched then state else (FieldState.seeded canonical t).setActive state.active
  | none => .seeded canonical t

/-- Let the untouched fields of a model follow its record, if the schema has the model and there
is editing state for it. -/
def refreshUntouched (s : Session) (model : String) : Session :=
  match s.schema.models.get? model, Dict.get? s.forms model with
  | some fields, some current =>
    let record := s.store.record? model
    let next := fields.map fun name d =>
      refreshed (current.get? name) (record.bind (·.get? name)) d.fieldType
    { s with forms := Dict.insert s.forms model next }
  | _, _ => s

/-- Replace a record outside a commit. -/
def replaceModel (s : Session) (model : String) (record : ModelRecord) : Session :=
  refreshUntouched { s with store := s.store.update model record } model

/-- Replace records one after another. -/
def replaceModels (s : Session) (records : List (String × ModelRecord)) : Session :=
  records.foldl (fun s r => s.replaceModel r.1 r.2) s

/-- The records among named values; other values are skipped. -/
def recordsOf (models : Entries Json) : List (String × ModelRecord) :=
  models.filterMap fun m => m.2.record?.map fun record => (m.1, record)

/-- Store the records of a backend document.  As many are stored as `recordsOf` holds. -/
def loadModels (s : Session) (models : Entries Json) : Session :=
  s.replaceModels (recordsOf models)

/-- The default records of the models that the schema has and the store lacks. -/
def missingDefaults (s : Session) : List (String × ModelRecord) :=
  s.schema.models.names.filterMap fun name =>
    if s.store.contains name then none
    else (s.schema.defaultModel? name).map fun record => (name, record)

/-- Store the default records of the models that the store lacks. -/
def fillMissingDefaults (s : Session) : Session :=
  s.replaceModels s.missingDefaults

/-- Give every field of a model a fresh editing state, if the schema has the model. -/
def reseedModel (s : Session) (model : String) : Session :=
  match s.schema.models.get? model with
  | some fields =>
    { s with forms := Dict.insert s.forms model (.ofRecord (s.store.record? model) fields) }
  | none => s

/-- Give every field of every stored model of the schema a fresh editing state. -/
def initializeForms (s : Session) : Session :=
  (s.store.models.names.filter fun name => s.schema.models.contains name).foldl reseedModel s

/-- The wire form of a field; a field that the schema does not have is sent as it is. -/
def encodeField (s : Session) (r : FieldRef) (v : Json) : Except RecordEncodeError Json :=
  match s.schema.field? r with
  | some d => (d.fieldType.encode v).mapError fun e => ⟨r, e⟩
  | none => .ok v

/-- The wire form of some fields of a record, in order of names. -/
def encodeFields (s : Session) (model : String) :
    Entries Json → Except RecordEncodeError (Entries Json)
  | [] => .ok []
  | (name, v) :: rest => do
    let wire ← s.encodeField ⟨model, name⟩ v
    let others ← s.encodeFields model rest
    return (name, wire) :: others

/-- The wire form of some records, in order of names. -/
def encodeRecords (s : Session) :
    Entries StoredModel → Except RecordEncodeError (Entries Json)
  | [] => .ok []
  | (name, stored) :: rest => do
    let wire ← s.encodeFields name stored.record.entries
    let others ← s.encodeRecords rest
    return (name, .object wire) :: others

/-- All records in wire form; the first field without one decides. -/
def wireModels (s : Session) : Except RecordEncodeError (Entries Json) :=
  s.encodeRecords s.store.models.entries

end Session
end PanelForms

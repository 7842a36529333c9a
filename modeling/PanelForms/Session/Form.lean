import PanelForms.Field.Hint
import PanelForms.Session.Basic

/-!
# Forms over a session

A form binds some fields of a session, edits them, and commits all their models at once or not at
all.  Several forms may be open on one session; each remembers the revision at which it last
agreed with every model it binds, and a commit is refused when a model has been replaced since
under an edit of this form.

Main definitions:

- `Form`: the bindings of one form.
- `FormStep`: the outcome of an operation, with the form and the session after it.
- `Form.bind`, `Form.edit`, `Form.setActive`,
  `Form.submit`, `Form.cancel`: the operations.
-/

namespace PanelForms

/-- Why a form refuses an operation. -/
inductive FormError where
  | unboundField (ref : FieldRef)
  | unknownModel (model : String)
  | unresolved (error : ResolveError)
  | invalid (fields : List FieldRef)
  | conflict (model : String) (expected found : Revision)
  | foreignSession (attached given : SessionId)
  deriving DecidableEq

namespace FormError

/-- What is reported. -/
def message : FormError → String
  | .unboundField ref => "field " ++ ref.text ++ " is not bound to this form"
  | .unknownModel model => "schema has no model " ++ Text.quoted model
  | .unresolved e => e.message
  | .invalid fields =>
    "form has " ++ toString fields.length ++ " invalid field(s):" ++
      String.join (fields.map fun ref => " " ++ ref.text)
  | .conflict model expected found =>
    "model " ++ Text.quoted model ++ " changed underneath the form (expected " ++
      expected.text ++ ", found " ++ found.text ++ ")"
  | .foreignSession attached given =>
    "form is attached to " ++ attached.text ++ ", not " ++ given.text

/-- The messages of the errors below this one. -/
def causes : FormError → List String
  | .unresolved e => e.message :: e.causes
  | _ => []

end FormError

/-- The bindings of a form: the session it belongs to, the bound fields in order with the place of
each, and the revision at which every bound model was last in step. -/
structure Form where
  session : Option SessionId
  fields : List ResolvedField
  index : List (FieldRef × Nat)
  revisions : Dict Revision

/-- The outcome of an operation of a form, and what the form and its session are after it. -/
structure FormStep (α : Type) where
  outcome : Except FormError α
  form : Form
  session : Session

/-- A bound field with its editing state and its committed value. -/
structure FieldView where
  field : ResolvedField
  state : FieldState
  canonical : Option Json

namespace FieldView

/-- How the field is shown. -/
def renderHint (v : FieldView) : RenderHint :=
  v.field.fieldType.renderHint v.state.valid v.state.touched

end FieldView

namespace Form

/-- A form without bindings. -/
def empty : Form :=
  ⟨none, [], [], Dict.empty⟩

/-- Bind the form to a session, unless it is bound to another one. -/
def attach (f : Form) (s : Session) : Except FormError Form :=
  match f.session with
  | none => .ok { f with session := some s.id }
  | some attached =>
    if attached = s.id then .ok f else .error (.foreignSession attached s.id)

/-- Whether a field is bound. -/
def isBound (f : Form) (r : FieldRef) : Bool :=
  (f.index.lookup r).isSome

/-- The binding of a field. -/
def bound (f : Form) (r : FieldRef) : Except FormError ResolvedField :=
  match (f.index.lookup r).bind fun i => f.fields[i]? with
  | some field => .ok field
  | none => .error (.unboundField r)

/-- The names of the bound models. -/
def boundModels (f : Form) : List String :=
  f.revisions.names

/-- The revision at which a bound model was last in step. -/
def syncedRevision? (f : Form) (model : String) : Option Revision :=
  f.revisions.get? model

/-- Remember the revision of a model that is bound for the first time. -/
def noteRevision (f : Form) (model : String) (revision : Revision) : Form :=
  if f.revisions.contains model then f
  else { f with revisions := f.revisions.insert model revision }

/-- Append a binding. -/
def appendField (f : Form) (field : ResolvedField) : Form :=
  { f with
    fields := f.fields ++ [field]
    index := f.index ++ [(field.ref, f.fields.length)] }

/-- Seed the editing state of a field, unless there is an edit of it. -/
def seedField (s : Session) (field : ResolvedField) : Session :=
  if (s.forms.field? field.ref).any (·.touched) then s
  else
    { s with
      forms := s.forms.setField field.ref
        (.seeded (s.store.fieldValue? field.ref) field.fieldType) }

/-- Bind a resolved field; binding it again changes nothing. -/
def bindField (f : Form) (s : Session) (field : ResolvedField) : FormStep Unit :=
  match f.attach s with
  | .error e => ⟨.error e, f, s⟩
  | .ok f =>
    if f.isBound field.ref then ⟨.ok (), f, s⟩
    else if !s.schema.models.contains field.ref.model then
      ⟨.error (.unknownModel field.ref.model), f, s⟩
    else
      let f := f.noteRevision field.ref.model (s.store.revision field.ref.model)
      ⟨.ok (), f.appendField field, seedField s field⟩

/-- Bind resolved fields one after another; the first one that cannot be bound ends it. -/
def bindFields (f : Form) (s : Session) : List ResolvedField → FormStep Unit
  | [] => ⟨.ok (), f, s⟩
  | field :: rest =>
    match f.bindField s field with
    | ⟨.ok _, f, s⟩ => bindFields f s rest
    | ⟨.error e, f, s⟩ => ⟨.error e, f, s⟩

/-- Resolve the text of a reference and bind it. -/
def bind (f : Form) (s : Session) (text : String) : FormStep FieldRef :=
  match s.schema.resolve text with
  | .error e => ⟨.error (.unresolved e), f, s⟩
  | .ok field =>
    let step := f.bindField s field
    ⟨step.outcome.map fun _ => field.ref, step.form, step.session⟩

/-- A bound field with its state. -/
def getField (f : Form) (s : Session) (r : FieldRef) : Except FormError FieldView :=
  match f.bound r with
  | .error e => .error e
  | .ok field =>
    match s.forms.field? r with
    | none => .error (.unboundField r)
    | some state => .ok ⟨field, state, s.store.fieldValue? r⟩

/-- Record an edit by the user. -/
def edit (f : Form) (s : Session) (r : FieldRef) (value : Json) :
    FormStep Unit :=
  match f.attach s with
  | .error e => ⟨.error e, f, s⟩
  | .ok f =>
    match f.bound r with
    | .error e => ⟨.error e, f, s⟩
    | .ok field =>
      let before := (s.forms.field? r).getD (.seeded none field.fieldType)
      let after := before.edited value field.fieldType
      ⟨.ok (), f, { s with forms := s.forms.setField r after }⟩

/-- Take a field into the form or out of it. -/
def setActive (f : Form) (s : Session) (r : FieldRef) (active : Bool) :
    FormStep Unit :=
  match f.attach s with
  | .error e => ⟨.error e, f, s⟩
  | .ok f =>
    match f.bound r, s.forms.field? r with
    | .error e, _ => ⟨.error e, f, s⟩
    | .ok _, none => ⟨.error (.unboundField r), f, s⟩
    | .ok _, some state =>
      ⟨.ok (), f, { s with forms := s.forms.setField r (state.setActive active) }⟩

/-- The bound fields that have editing state, in the order of binding. -/
def boundStates (f : Form) (s : Session) : List (FieldRef × FieldState) :=
  f.fields.filterMap fun field =>
    (s.forms.field? field.ref).map fun state => (field.ref, state)

/-- Whether a bound field of a model has been touched. -/
def hasTouchedFields (f : Form) (s : Session) (model : String) : Bool :=
  (f.boundStates s).any fun b => b.1.model == model && b.2.touched

/-- Whether an active bound field has been touched. -/
def isDirty (f : Form) (s : Session) : Bool :=
  (f.boundStates s).any fun b => b.2.isDirty

/-- The active bound fields that are not valid, in the order of binding. -/
def invalidFields (f : Form) (s : Session) : List FieldRef :=
  ((f.boundStates s).filter fun b => b.2.blocksSubmit).map (·.1)

/-- Whether every active bound field is valid. -/
def isValid (f : Form) (s : Session) : Bool :=
  !(f.boundStates s).any fun b => b.2.blocksSubmit

/-- A bound model that has been replaced under an edit of this form. -/
def conflictAt? (f : Form) (s : Session) (bound : String × Revision) :
    Option FormError :=
  let found := s.store.revision bound.1
  if found ≠ bound.2 ∧ f.hasTouchedFields s bound.1 = true then
    some (.conflict bound.1 bound.2 found)
  else none

/-- Why a commit is refused: invalid fields first, then the first conflict in order of names. -/
def submitFault? (f : Form) (s : Session) : Option FormError :=
  let invalid := f.invalidFields s
  if invalid.isEmpty then f.revisions.entries.findSome? (f.conflictAt? s)
  else some (.invalid invalid)

/-- The record that a commit writes for a model: its canonical record with the bound values. -/
def pendingRecord (f : Form) (s : Session) (model : String) : ModelRecord :=
  ((f.boundStates s).filter fun b => b.1.model == model).foldl
    (fun record b => record.insert b.1.field b.2.value)
    ((s.store.record? model).getD Dict.empty)

/-- Adopt the current revisions of all bound models. -/
def adoptRevisions (f : Form) (s : Session) : Form :=
  { f with revisions := f.revisions.map fun model _ => s.store.revision model }

/-- Write one record of a commit and seed its model anew. -/
def commitModel (s : Session) (model : String) (record : ModelRecord) : Session :=
  Session.reseedModel { s with store := s.store.update model record } model

/-- Write the records of a commit in order.  The result lists the models with their new
revisions. -/
def commitAll : Session → List (String × ModelRecord) →
    List (String × Revision) × Session
  | s, [] => ([], s)
  | s, (model, record) :: rest =>
    let revision := s.store.nextRevision
    let (committed, after) := commitAll (commitModel s model record) rest
    ((model, revision) :: committed, after)

/-- Commit every bound model, or none.  All checks come before the first write, and all records
are made before it too. -/
def submit (f : Form) (s : Session) :
    FormStep (List (String × Revision)) :=
  match f.attach s with
  | .error e => ⟨.error e, f, s⟩
  | .ok f =>
    match f.submitFault? s with
    | some e => ⟨.error e, f, s⟩
    | none =>
      let pending := f.boundModels.map fun model => (model, f.pendingRecord s model)
      let (committed, after) := commitAll s pending
      ⟨.ok committed, { f with revisions := Dict.ofList committed }, after⟩

/-- Discard all edits: seed every bound model anew and adopt the current revisions. -/
def cancel (f : Form) (s : Session) : FormStep Unit :=
  match f.attach s with
  | .error e => ⟨.error e, f, s⟩
  | .ok f =>
    ⟨.ok (), f.adoptRevisions s, f.boundModels.foldl Session.reseedModel s⟩

end Form
end PanelForms

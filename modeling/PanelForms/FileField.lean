import PanelForms.Backend.Client
import PanelForms.Schema.Resolve

/-!
# Files of a field

The backend keeps the files of a field under a name made of its model and its field.

Main definitions:

- `fileFieldName`: that name.
- `FileField.list`, `FileField.upload`, `FileField.download`: the calls for a resolved field.
-/

namespace PanelForms

/-- The name under which the backend keeps the files of a field. -/
def fileFieldName (r : FieldRef) : String :=
  r.model ++ "-" ++ r.field

namespace FileField

/-- The files of a field that pass its filter, if it has one. -/
def list (client : Client) (field : ResolvedField) : Call (List String) :=
  (client.fileList (fileFieldName field.ref)).bindResult fun files =>
    match field.fieldType.filePattern? with
    | some pattern => .ok (files.filter pattern.accepts)
    | none => .ok files

/-- Upload a file for a simulation. -/
def upload (client : Client) (field : ResolvedField) (id name : String) (bytes : List UInt8) :
    Call Unit :=
  client.uploadFile id (fileFieldName field.ref) name bytes

/-- The bytes of a file. -/
def download (client : Client) (field : ResolvedField) (name : String) : Call (List UInt8) :=
  client.downloadFile (fileFieldName field.ref) name

end FileField
end PanelForms

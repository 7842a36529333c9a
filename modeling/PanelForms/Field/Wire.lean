import PanelForms.Field.Validation
import PanelForms.Text.Quoted

/-!
# Wire form of field values

The backend is sent flags as `"1"` and `"0"`, numbers as JSON numbers and missing numbers as null.
Every other value is sent as it is.

Main definitions:

- `EncodeError`: why a value has no wire form.
- `FieldType.encode`: the wire form of a value.
-/

namespace PanelForms

/-- Why a value has no wire form. -/
inductive EncodeError where
  | notANumber (text : String)
  | notABoolean (text : String)
  | shape (kind : String) (value : Json)
  deriving DecidableEq

namespace EncodeError

/-- What is reported. -/
def message : EncodeError → String
  | .notANumber text => Text.quoted text ++ " is not a number"
  | .notABoolean text => Text.quoted text ++ " is not a boolean"
  | .shape kind value => kind ++ " field cannot hold " ++ value.text

end EncodeError

namespace FieldType

/-- The trimmed text of a value that a numeric kind reads; none if the value is missing. -/
def numericText (t : FieldType) (v : Json) : Except EncodeError (Option String) :=
  match v.scalarText? with
  | some text => .ok (if Text.isBlankText text then none else some (Text.trim text))
  | none => if v.isNull then .ok none else .error (.shape t.kind.name v)

/-- The flag of a value; a missing one is off. -/
def encodeFlag (t : FieldType) (v : Json) : Except EncodeError Bool :=
  match v.scalarText? with
  | none => if v.isNull then .ok false else .error (.shape t.kind.name v)
  | some text =>
    if Text.isBlankText text then .ok false
    else
      match v.flag? with
      | some b => .ok b
      | none => .error (.notABoolean text)

/-- The number read from a value, or null if the value is missing. -/
def encodeNumber (t : FieldType) (read : String → Option JsonNumber) (v : Json) :
    Except EncodeError Json :=
  match t.numericText v with
  | .error e => .error e
  | .ok none => .ok .null
  | .ok (some text) =>
    match read text with
    | some n => .ok (.number n)
    | none => .error (.notANumber text)

/-- The wire form of a value. -/
def encode (t : FieldType) (v : Json) : Except EncodeError Json :=
  match t.kind with
  | .text | .file _ | .choice _ | .computed _ => .ok v
  | .boolean => (t.encodeFlag v).map fun b => .string (if b then "1" else "0")
  | .float => t.encodeNumber (fun text => (floatOf? text).map .float) v
  | .integer => t.encodeNumber (fun text => (integerOf? text).map .integer) v

end FieldType
end PanelForms

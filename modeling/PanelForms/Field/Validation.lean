import PanelForms.Field.NumericPattern
import PanelForms.Text.Blank
import PanelForms.Text.Substitution

/-!
# Validation of field values

A value is missing if it is null or blank text, and then only a required field rejects it.  Any
other value is judged by its text: numeric kinds demand text of their pattern that is also read as
a number they can hold, choices demand an allowed value, and free kinds accept every text.

Main definitions:

- `Rejection`: why a value is rejected, with its code, template and parameters.
- `FieldType.check`: the rejection of a value, if there is one.
- `FieldType.validates`: whether a value is accepted.
-/

namespace PanelForms

/-- Why a field rejects a value. -/
inductive Rejection where
  | required
  | integer (text : String)
  | float (text : String)
  | boolean (text : String)
  | choice (text : String) (allowed : List String)
  | shape (kind shape : String)
  deriving DecidableEq

namespace Rejection

/-- The stable identifier of a cause. -/
def code : Rejection → String
  | .required => "required"
  | .integer _ => "integer"
  | .float _ => "float"
  | .boolean _ => "boolean"
  | .choice _ _ => "enum"
  | .shape _ _ => "shape"

/-- The message with placeholders for its parameters. -/
def template : Rejection → String
  | .required => "This field is required"
  | .integer _ => "\x7bvalue\x7d is not an integer"
  | .float _ => "\x7bvalue\x7d is not a number"
  | .boolean _ => "\x7bvalue\x7d is not a boolean"
  | .choice _ _ => "\x7bvalue\x7d is not one of \x7ballowed\x7d"
  | .shape _ _ => "\x7bkind\x7d field cannot hold a \x7bshape\x7d"

/-- The parameters by name. -/
def params : Rejection → List (String × String)
  | .required => []
  | .integer text => [("value", text)]
  | .float text => [("value", text)]
  | .boolean text => [("value", text)]
  | .choice text allowed => [("value", text), ("allowed", String.intercalate ", " allowed)]
  | .shape kind found => [("kind", kind), ("shape", found)]

/-- The message with its parameters filled in. -/
def message (r : Rejection) : String :=
  Text.fillTemplate r.template r.params

end Rejection

/-- The range of integers that a field can hold. -/
def fitsInteger (n : Int) : Bool :=
  -9223372036854775808 ≤ n && n ≤ 9223372036854775807

/-- The integer of a literal, if a field can hold it. -/
def integerOf? (text : String) : Option Int :=
  (Number.readInteger? text.toList).filter fitsInteger

/-- The number of floating text, if it is finite. -/
def floatOf? (text : String) : Option Binary64 :=
  (Number.readFloat? text.toList).bind Number.FloatReading.finite?

namespace FieldType

/-- The verdict on a missing value. -/
def checkMissing (t : FieldType) : Option Rejection :=
  if t.required then some .required else none

/-- The verdict on text that is not blank, of the value `v`.  The patterns see the text as it is,
and only the floating one allows blanks around the number, which is then read without them. -/
def checkText (t : FieldType) (v : Json) (text : String) : Option Rejection :=
  match t.kind with
  | .text | .file _ | .computed _ => none
  | .integer =>
    if NumericPattern.integer.occursIn text && (integerOf? text).isSome then none
    else some (.integer text)
  | .float =>
    if NumericPattern.float.occursIn text && (floatOf? (Text.trim text)).isSome then none
    else some (.float text)
  | .boolean => if v.flag?.isSome then none else some (.boolean text)
  | .choice allowed =>
    if allowed.any (fun c => c.value == text) then none
    else some (.choice text (allowed.map (·.value)))

/-- Why a value is rejected; none if it is accepted. -/
def check (t : FieldType) (v : Json) : Option Rejection :=
  match v.scalarText? with
  | none => if v.isNull then t.checkMissing else some (.shape t.kind.name v.shapeName)
  | some text => if Text.isBlankText text then t.checkMissing else t.checkText v text

/-- Whether a value is accepted. -/
def validates (t : FieldType) (v : Json) : Bool :=
  (t.check v).isNone

end FieldType
end PanelForms

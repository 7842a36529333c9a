import PanelForms.FieldRef
import PanelForms.Json.Basic

/-!
# References in JSON

A reference stands in JSON as a string, which is its text.

Main definitions:

- `FieldRef.toJson`: the value that a reference is written as.
- `FieldRef.ofJson`: the reference that a value denotes.
-/

namespace PanelForms

/-- Why a value is not a reference. -/
inductive FieldRefJsonError where
  | notText
  | malformed (error : FieldRefError)
  deriving DecidableEq

namespace FieldRef

/-- The value that a reference is written as. -/
def toJson (r : FieldRef) : Json :=
  .string r.text

/-- The reference that a value denotes. -/
def ofJson : Json → Except FieldRefJsonError FieldRef
  | .string text => (parse text).mapError .malformed
  | _ => .error .notText

end FieldRef
end PanelForms

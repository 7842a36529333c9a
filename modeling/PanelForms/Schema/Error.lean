import PanelForms.FieldRef
import PanelForms.Json.Printer

/-!
# Schema errors

Why a schema document does not compile.  Each error is a cause; its wording is a function of the
cause.

Main definitions:

- `SchemaError`: the causes.
- `SchemaError.message`: what is reported.
- `SchemaError.causes`: the messages of the errors below it.
-/

namespace PanelForms

/-- How a document fails to be one: its text ends too early, its text is not JSON, or a part of it
has another shape than its place demands. -/
inductive DocumentFault where
  | unexpectedEnd
  | malformed
  | wrongShape
  deriving DecidableEq

/-- What is wrong with the configuration of a field type. -/
inductive TypeConfigFault where
  | requirednessNotAFlag (got : Json)
  | choicesNotAList (got : Json)
  | choiceValueNotAScalar (got : Json)
  | choiceLabelNotAScalar (got : Json)
  | choiceNotAPair (got : Json)
  | patternNotText (got : Json)
  | patternMalformed
  | nameMissing (key : String) (got : Option Json)
  deriving DecidableEq

/-- What is wrong with a view. -/
inductive ViewFault where
  | unnamed
  | viewsNotAListing (got : Json)
  deriving DecidableEq

/-- Why a schema does not compile. -/
inductive SchemaError where
  | unreadable (fault : DocumentFault)
  | unknownType (model field typeName : String)
  | unknownBase (typeName base : String)
  | badTypeConfig (typeName : String) (fault : TypeConfigFault)
  | badReference (view : String) (error : FieldRefError)
  | unknownField (view : String) (ref : FieldRef)
  | badView (view : String) (fault : ViewFault)
  deriving DecidableEq

/-- What stands for the details of a fault in JSON text or shape. -/
def jsonFaultText : String := "<json>"

/-- What stands for the details of a fault in a pattern. -/
def patternFaultText : String := "<regex>"

namespace TypeConfigFault

/-- What is reported. -/
def message : TypeConfigFault → String
  | .requirednessNotAFlag got => "isRequired must be a boolean, got " ++ got.text
  | .choicesNotAList got => "allowedValues must be a list, got " ++ got.text
  | .choiceValueNotAScalar got => "enum value must be a scalar, got " ++ got.text
  | .choiceLabelNotAScalar got => "enum label must be a scalar, got " ++ got.text
  | .choiceNotAPair got => "allowedValues entries must be [value, label], got " ++ got.text
  | .patternNotText got => "pattern must be a string, got " ++ got.text
  | .patternMalformed => "invalid file pattern: " ++ patternFaultText
  | .nameMissing key got =>
    key ++ " must be a non-empty string, got " ++ (got.map Json.text).getD "nothing"

end TypeConfigFault

namespace ViewFault

/-- What is reported. -/
def message : ViewFault → String
  | .unnamed => "view has no name"
  | .viewsNotAListing got => "views must be a list or a map, not " ++ got.text

end ViewFault

namespace SchemaError

/-- What is reported. -/
def message : SchemaError → String
  | .unreadable _ => "schema JSON error: " ++ jsonFaultText
  | .unknownType model field typeName =>
    model ++ "." ++ field ++ ": unknown field type " ++ Text.quoted typeName
  | .unknownBase typeName base =>
    "type " ++ Text.quoted typeName ++ ": unknown base kind " ++ Text.quoted base
  | .badTypeConfig typeName fault => "type " ++ Text.quoted typeName ++ ": " ++ fault.message
  | .badReference view error => "view " ++ Text.quoted view ++ ": " ++ error.message
  | .unknownField view ref =>
    "view " ++ Text.quoted view ++ ": no schema field for " ++ ref.text
  | .badView view fault => "view " ++ Text.quoted view ++ ": " ++ fault.message

/-- The messages of the errors below this one. -/
def causes : SchemaError → List String
  | .unreadable _ => [jsonFaultText]
  | .badReference _ error => [error.message]
  | _ => []

end SchemaError
end PanelForms

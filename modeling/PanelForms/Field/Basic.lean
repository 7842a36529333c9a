import PanelForms.Json.Printer
import PanelForms.Pattern.Parser

/-!
# Field types

Every field of a model has one of seven kinds and is either required or optional.  A value is
judged by its text, which scalars alone have.

Main definitions:

- `FieldKind`, `FieldType`: the closed set of kinds, and a kind with its requiredness.
- `FilePattern`: a compiled filter on file names.
- `Json.scalarText?`: the text of a scalar value.
-/

namespace PanelForms

/-- An allowed value of a choice field and the label shown for it. -/
structure Choice where
  value : String
  label : String
  deriving DecidableEq

/-- A filter on file names, with the text it was written as. -/
structure FilePattern where
  source : String
  expr : Pattern.Expr
  deriving DecidableEq

namespace FilePattern

/-- Compile a filter. -/
def compile? (source : String) : Option FilePattern :=
  (Pattern.Expr.parse? source).map fun expr => ⟨source, expr⟩

/-- Whether a file name passes: it is not empty and the pattern occurs in it. -/
def accepts (p : FilePattern) (fileName : String) : Bool :=
  !fileName.isEmpty && p.expr.occursIn fileName

end FilePattern

/-- A backend computation that supplies the options of a field: the method to call and the member
of its result that lists the options. -/
structure ComputeSource where
  method : String
  resultName : String
  deriving DecidableEq

/-- What kind of value a field holds. -/
inductive FieldKind where
  | text
  | float
  | integer
  | boolean
  | file (pattern : Option FilePattern)
  | choice (allowed : List Choice)
  | computed (source : ComputeSource)
  deriving DecidableEq

/-- A kind, and whether a value must be present. -/
structure FieldType where
  kind : FieldKind
  required : Bool
  deriving DecidableEq

namespace FieldKind

/-- The name of a kind in schemas and messages. -/
def name : FieldKind → String
  | .text => "String"
  | .float => "Float"
  | .integer => "Integer"
  | .boolean => "Boolean"
  | .file _ => "File"
  | .choice _ => "Enum"
  | .computed _ => "StatefulComputeEnum"

end FieldKind

namespace FieldType

/-- The filter on file names, for file fields that have one. -/
def filePattern? (t : FieldType) : Option FilePattern :=
  match t.kind with
  | .file pattern => pattern
  | _ => none

/-- The allowed values, for choice fields. -/
def choices (t : FieldType) : List Choice :=
  match t.kind with
  | .choice allowed => allowed
  | _ => []

/-- Where the options come from, for computed fields. -/
def computeSource? (t : FieldType) : Option ComputeSource :=
  match t.kind with
  | .computed source => some source
  | _ => none

end FieldType

namespace Json

/-- The text of a scalar: a string as it is, a number as printed, a flag as a word.  Null, arrays
and objects have none. -/
def scalarText? : Json → Option String
  | .string s => some s
  | .number n => some n.text
  | .bool b => some (if b then "true" else "false")
  | .null | .array _ | .object _ => none

/-- What a value without scalar text is called in messages. -/
def shapeName : Json → String
  | .array _ => "list"
  | .object _ => "record"
  | _ => "scalar"

/-- The flag that a value stands for: a flag itself, the strings `true`, `false`, `1` and `0`, and
the integers one and zero. -/
def flag? : Json → Option Bool
  | .bool b => some b
  | .string s =>
    if s = "true" ∨ s = "1" then some true
    else if s = "false" ∨ s = "0" then some false
    else none
  | .number (.integer n) => if n = 1 then some true else if n = 0 then some false else none
  | _ => none

end Json
end PanelForms

import PanelForms.Field.Basic

/-!
# Rendering hints

The part of the rendering contract that no user interface has to know: which control shows a
field, how its text is aligned and whether it is marked as invalid.

Main definitions:

- `InputControl`, `Alignment`, `RenderHint`.
- `FieldType.renderHint`: the hint for a field.
-/

namespace PanelForms

/-- The control that shows a field. -/
inductive InputControl where
  | textBox
  | checkbox
  | select
  | fileSelect
  deriving DecidableEq

/-- How the text in a control is aligned. -/
inductive Alignment where
  | start
  | finish
  deriving DecidableEq

/-- How a field is shown. -/
structure RenderHint where
  control : InputControl
  alignment : Alignment
  showInvalid : Bool
  deriving DecidableEq

namespace FieldType

/-- How a field is shown: numbers are aligned at the end, and an invalid value is marked only once
the field has been touched. -/
def renderHint (t : FieldType) (valid touched : Bool) : RenderHint :=
  let (control, alignment) :=
    match t.kind with
    | .text => (InputControl.textBox, Alignment.start)
    | .float | .integer => (.textBox, .finish)
    | .boolean => (.checkbox, .start)
    | .file _ => (.fileSelect, .start)
    | .choice _ | .computed _ => (.select, .start)
  ⟨control, alignment, !valid && touched⟩

end FieldType
end PanelForms

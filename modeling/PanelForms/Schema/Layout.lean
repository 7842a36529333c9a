import PanelForms.FieldRef

/-!
# Views and their layouts

A view is a panel with layouts that are always shown and layouts of its advanced editor.  Layouts
list fields, arrange them in tables, group other layouts in tabs, or show a report.

Main definitions:

- `Layout`, `TableRow`, `View`.
- `View.fieldRefs`: the edited references in document order.
- `View.formDependencies`: those references parsed, each distinct one once.
- `View.reports`: the reports in document order.
-/

namespace PanelForms

/-- A row of a field table: a label, and one field for each column. -/
structure TableRow where
  label : Option String
  fields : List String
  deriving DecidableEq

/-- A part of a panel. -/
inductive Layout where
  | fieldList (fields : List String)
  | fieldTable (columns : List String) (rows : List TableRow)
  | tabs (tabs : List (String × List Layout))
  | report (name : String) (dependencies : List String)

/-- A report shown in a view, with the references it depends on besides the form. -/
structure ReportSpec where
  name : String
  dependencies : List String
  deriving DecidableEq

namespace Layout

mutual

/-- The references that a layout edits, in document order. -/
def fieldRefs : Layout → List String
  | .fieldList fields => fields
  | .fieldTable _ rows => rows.flatMap (·.fields)
  | .tabs groups => tabRefs groups
  | .report _ _ => []

/-- The references that several layouts edit. -/
def allFieldRefs : List Layout → List String
  | [] => []
  | layout :: rest => fieldRefs layout ++ allFieldRefs rest

/-- The references that the layouts of several tabs edit. -/
def tabRefs : List (String × List Layout) → List String
  | [] => []
  | (_, items) :: rest => allFieldRefs items ++ tabRefs rest

end

mutual

/-- The reports that a layout shows, in document order. -/
def reports : Layout → List ReportSpec
  | .report name dependencies => [⟨name, dependencies⟩]
  | .tabs groups => tabReports groups
  | .fieldList _ | .fieldTable _ _ => []

/-- The reports that several layouts show. -/
def allReports : List Layout → List ReportSpec
  | [] => []
  | layout :: rest => reports layout ++ allReports rest

/-- The reports that the layouts of several tabs show. -/
def tabReports : List (String × List Layout) → List ReportSpec
  | [] => []
  | (_, items) :: rest => allReports items ++ tabReports rest

end

end Layout

/-- A panel: a name, a title, the kind of view that shows it, and its layouts. -/
structure View where
  name : String
  titleText : Option String
  kind : String
  basic : List Layout
  advanced : List Layout

namespace View

/-- The kind of a view that declares none. -/
def defaultKind : String := "panel"

/-- The title shown; a view without one is shown by its name. -/
def title (v : View) : String :=
  v.titleText.getD v.name

/-- The references that a view edits, the basic layouts first. -/
def fieldRefs (v : View) : List String :=
  Layout.allFieldRefs v.basic ++ Layout.allFieldRefs v.advanced

/-- The fields that a view edits, each one at its first appearance. -/
def formDependencies (v : View) : Except FieldRefError (List FieldRef) :=
  (FieldRef.parseAll v.fieldRefs).map FieldRef.firstOccurrences

/-- The reports that a view shows, the basic layouts first. -/
def reports (v : View) : List ReportSpec :=
  Layout.allReports v.basic ++ Layout.allReports v.advanced

/-- Every reference of a view: those it edits, then those its reports depend on. -/
def allRefs (v : View) : List String :=
  v.fieldRefs ++ v.reports.flatMap (·.dependencies)

end View
end PanelForms

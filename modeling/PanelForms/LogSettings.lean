import PanelForms.Text.Blank

/-!
# Log settings

What is logged and how it is written, from named variables.

Main definitions:

- `LogFormat.parse?`: the format of a name.
- `LogSettings.ofVariables`: the settings of some variables.
-/

namespace PanelForms

/-- How log records are written. -/
inductive LogFormat where
  | compact
  | pretty
  | json
  deriving DecidableEq

namespace LogFormat

/-- The name of a format. -/
def name : LogFormat → String
  | .compact => "compact"
  | .pretty => "pretty"
  | .json => "json"

/-- Every format. -/
def all : List LogFormat :=
  [.compact, .pretty, .json]

/-- The format of a name, whatever the case of its ASCII letters and the blanks around it. -/
def parse? (text : String) : Option LogFormat :=
  let letters := (Text.trimChars text.toList).map Char.toLower
  all.find? fun format => format.name.toList == letters

end LogFormat

/-- The filter on log records, and how those that pass it are written. -/
structure LogSettings where
  filter : String
  format : LogFormat
  deriving DecidableEq

namespace LogSettings

/-- The settings without any variable. -/
def standard : LogSettings :=
  ⟨"info", .compact⟩

/-- The settings of some variables; a blank filter or an unknown format leaves its default. -/
def ofVariables (lookup : String → Option String) : LogSettings where
  filter := ((lookup "SIMFORM_LOG").filter fun s => !Text.isBlankText s).getD standard.filter
  format := ((lookup "SIMFORM_LOG_FORMAT").bind LogFormat.parse?).getD standard.format

end LogSettings
end PanelForms

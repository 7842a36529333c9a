/-!
# Placeholders in message templates

A message template holds names between braces, and each parameter replaces its own placeholder
everywhere.  The parameters are applied one after another, each to the whole text so far.

Main definitions:

- `replaceAll`: every occurrence of a text from left to right.
- `fillTemplate`: a template with its parameters filled in.
-/

namespace PanelForms
namespace Text

/-- Replace the occurrences of `pattern`, from left to right and without overlaps.  The number of
characters still to skip belongs to an occurrence that has been replaced. -/
def replaceFrom (pattern replacement : List Char) : (skip : Nat) → List Char → List Char
  | _, [] => []
  | skip + 1, _ :: rest => replaceFrom pattern replacement skip rest
  | 0, c :: rest =>
    if pattern.isPrefixOf (c :: rest) then
      replacement ++ replaceFrom pattern replacement (pattern.length - 1) rest
    else c :: replaceFrom pattern replacement 0 rest

/-- Replace the occurrences of a nonempty text. -/
def replaceAll (pattern replacement text : String) : String :=
  String.ofList (replaceFrom pattern.toList replacement.toList 0 text.toList)

/-- The placeholder of a parameter. -/
def placeholder (key : String) : String :=
  "\x7b" ++ key ++ "\x7d"

/-- Fill the parameters into a template in the order given. -/
def fillTemplate (template : String) (params : List (String × String)) : String :=
  params.foldl (fun text p => replaceAll (placeholder p.1) p.2 text) template

end Text
end PanelForms

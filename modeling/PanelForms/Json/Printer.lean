import PanelForms.Json.Basic
import PanelForms.Number.Shortest
import PanelForms.Text.Hex

/-!
# Compact JSON text

A value is written without blanks.  Strings escape the quote, the backslash and the control
characters below the space, and nothing else.  A float has the fewest digits that read back.

Main definitions:

- `Json.floatStyle`: where floats change from positional text to an exponent.
- `JsonNumber.text`: the text of a number.
- `Json.text`: the text of a value.
-/

namespace PanelForms

/-- Floats are positional from `0.00001` to just below ten to the sixteenth; a positive exponent
has a plus sign. -/
def Json.floatStyle : Number.DecimalStyle :=
  ⟨-5, 15, true⟩

/-- The text of a number. -/
def JsonNumber.text : JsonNumber → String
  | .integer n => Number.integerText n
  | .float x => String.ofList (Json.floatStyle.shortest x)

namespace Json

/-- How one character stands inside a JSON string. -/
def escapeChar (c : Char) : List Char :=
  if c = '"' then ['\\', '"']
  else if c = '\\' then ['\\', '\\']
  else if c.toNat = 8 then ['\\', 'b']
  else if c.toNat = 12 then ['\\', 'f']
  else if c = '\n' then ['\\', 'n']
  else if c = '\r' then ['\\', 'r']
  else if c = '\t' then ['\\', 't']
  else if c.toNat < 32 then
    ['\\', 'u', '0', '0', Hex.lowerDigit (c.toNat / 16), Hex.lowerDigit (c.toNat % 16)]
  else [c]

/-- A string between quotes. -/
def stringText (s : String) : String :=
  String.ofList ('"' :: (s.toList.flatMap escapeChar ++ ['"']))

mutual

/-- The compact text of a value. -/
def text : Json → String
  | .null => "null"
  | .bool b => if b then "true" else "false"
  | .number n => n.text
  | .string s => stringText s
  | .array items => "[" ++ String.intercalate "," (itemTexts items) ++ "]"
  | .object members => "\x7b" ++ String.intercalate "," (memberTexts members) ++ "\x7d"

/-- The texts of the items of an array. -/
def itemTexts : List Json → List String
  | [] => []
  | item :: rest => text item :: itemTexts rest

/-- The texts of the members of an object. -/
def memberTexts : List (String × Json) → List String
  | [] => []
  | (name, value) :: rest => (stringText name ++ ":" ++ text value) :: memberTexts rest

end

end Json
end PanelForms

/-!
# Blank characters

A value counts as missing when its text holds blank characters only, and numeric text may be
padded with them.  Blank means the `White_Space` property, so a no-break space is blank while a
zero-width space is not.

Main definitions:

- `isBlank`: membership in the property.
- `trim`: a text without the blanks at either end.
- `isBlankText`: nothing is left after trimming.
-/

namespace PanelForms
namespace Text

/-- The twenty-five characters with the property `White_Space`. -/
def isBlank (c : Char) : Bool :=
  let n := c.toNat
  (9 ≤ n && n ≤ 13) || n == 32 || n == 0x85 || n == 0xA0 || n == 0x1680 ||
    (0x2000 ≤ n && n ≤ 0x200A) || n == 0x2028 || n == 0x2029 || n == 0x202F ||
    n == 0x205F || n == 0x3000

/-- Drop the blanks at both ends. -/
def trimChars (cs : List Char) : List Char :=
  ((cs.dropWhile isBlank).reverse.dropWhile isBlank).reverse

/-- A text without the blanks at either end. -/
def trim (s : String) : String :=
  String.ofList (trimChars s.toList)

/-- A text of blanks only; the empty text is one. -/
def isBlankText (s : String) : Bool :=
  s.toList.all isBlank

end Text
end PanelForms

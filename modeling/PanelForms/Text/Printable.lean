import PanelForms.Text.Category

/-!
# Printable characters

A character is printable if its general category is a letter, mark, number, punctuation or symbol;
of the separators the plain space is printable.  A character extends a grapheme if it has the
property `Grapheme_Extend`: shown alone it would attach itself to whatever stands before it.

Main definitions:

- `isPrintable`, `extendsGrapheme`: the two properties.
-/

namespace PanelForms
namespace Text

/-- The categories of which every character can be shown. -/
def visibleCategories : List Category :=
  Category.letters ++ Category.marks ++ Category.numbers ++ Category.punctuation ++
    Category.symbols

/-- Whether a character can be shown. -/
def isPrintable (c : Char) : Bool :=
  c == ' ' || Category.anyCovers visibleCategories c.toNat

/-- The characters outside the two categories of marks that attach to the one before them. -/
def otherExtenders : List (Nat × Nat) :=
  [(0x9be, 0x9be), (0x9d7, 0x9d7), (0xb3e, 0xb3e), (0xb57, 0xb57), (0xbbe, 0xbbe), (0xbd7, 0xbd7),
    (0xcc2, 0xcc2), (0xcd5, 0xcd6), (0xd3e, 0xd3e), (0xd57, 0xd57), (0xdcf, 0xdcf), (0xddf, 0xddf),
    (0x1b35, 0x1b35), (0x200c, 0x200c), (0x302e, 0x302f), (0xff9e, 0xff9f), (0x1133e, 0x1133e),
    (0x11357, 0x11357), (0x114b0, 0x114b0), (0x114bd, 0x114bd), (0x115af, 0x115af),
    (0x11930, 0x11930), (0x1d165, 0x1d165), (0x1d16e, 0x1d172), (0xe0020, 0xe007f)]

/-- Whether a code point attaches to the one before it. -/
def isExtender (n : Nat) : Bool :=
  Category.anyCovers [.nonspacingMark, .enclosingMark] n || inRanges otherExtenders n

/-- Whether a character attaches to the one before it. -/
def extendsGrapheme (c : Char) : Bool :=
  isExtender c.toNat

end Text
end PanelForms

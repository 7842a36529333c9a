/-!
# Tables of code points

A set of code points is listed as inclusive ranges.  Where members and others take turns, as the
two cases of a letter often do, one entry lists every second code point of a range.

Main definitions:

- `inRanges`: membership in a table of ranges.
- `inAlternating`: membership in a table of ranges of which every second code point counts.
-/

namespace PanelForms
namespace Text

/-- Whether a code point lies in one of the inclusive ranges. -/
def inRanges (ranges : List (Nat × Nat)) (n : Nat) : Bool :=
  ranges.any fun r => r.1 ≤ n && n ≤ r.2

/-- Whether a code point lies in one of the inclusive ranges, an even number of places from its
start. -/
def inAlternating (ranges : List (Nat × Nat)) (n : Nat) : Bool :=
  ranges.any fun r => r.1 ≤ n && n ≤ r.2 && (n - r.1) % 2 == 0

end Text
end PanelForms

import PanelForms.Field.Basic

/-!
# Patterns of numeric text

Integer text and floating text are each held against a pattern before they are read.  The patterns
see a text as it was entered: both demand that nothing stands before or after the number, and the
floating one lets blanks stand on either side of it.

Main definitions:

- `NumericPattern.integerSource`, `NumericPattern.floatSource`: the patterns as they are written.
- `NumericPattern.integer`, `NumericPattern.float`: the expressions that they denote.
-/

namespace PanelForms
namespace NumericPattern

open Pattern

/-! ## Parts -/

/-- The expression, or nothing. -/
def optional (e : Expr) : Expr :=
  .repeated e 0 (some 1)

/-- The expression any number of times. -/
def anyNumber (e : Expr) : Expr :=
  .repeated e 0 none

/-- The expression at least once. -/
def oneOrMore (e : Expr) : Expr :=
  .repeated e 1 none

/-- An ASCII digit. -/
def digit : Expr :=
  .chars (.union .nothing (.range 48 57))

/-- A plus sign or a minus sign. -/
def sign : Expr :=
  .chars (.union (.single 45) (.single 43))

/-- A decimal point. -/
def point : Expr :=
  .chars (.single 46)

/-- The letter before an exponent, in either case. -/
def exponentMark : Expr :=
  .chars (.union (.union .nothing (.single 101)) (.single 69))

/-- A blank. -/
def blank : Expr :=
  .chars (.property .blank)

/-- Digits with a point after the first of them or later, or after a point. -/
def mantissa : Expr :=
  .alt (.seqAll [oneOrMore digit, optional point, anyNumber digit])
    (.seqAll [point, oneOrMore digit])

/-- The exponent of a floating number. -/
def exponent : Expr :=
  .seqAll [exponentMark, optional sign, oneOrMore digit]

/-! ## The patterns -/

/-- How the pattern of integer text is written. -/
def integerSource : String :=
  "^[-+]?[0-9]+$"

/-- How the pattern of floating text is written. -/
def floatSource : String :=
  "^\\s*[-+]?([0-9]+\\.?[0-9]*|\\.[0-9]+)([eE][-+]?[0-9]+)?\\s*$"

/-- The pattern of integer text. -/
def integer : Expr :=
  .seqAll [.assertion .textStart, optional sign, oneOrMore digit, .assertion .textEnd]

/-- The pattern of floating text. -/
def float : Expr :=
  .seqAll [.assertion .textStart, anyNumber blank, optional sign, mantissa, optional exponent,
    anyNumber blank, .assertion .textEnd]

/-- The pattern for integers is what its source is read as. -/
theorem parse?_integerSource : Expr.parse? integerSource = some integer := by
  decide +kernel

/-- The pattern for numbers is what its source is read as. -/
theorem parse?_floatSource : Expr.parse? floatSource = some float := by
  decide +kernel

end NumericPattern
end PanelForms

import PanelForms.Number.Binary64

/-!
# Decimal text

Numbers in forms are decimal text.  A floating literal is an optional sign, digits with at most
one point and at least one digit, and an optional exponent; an integer literal is an optional
sign and at least one digit.  Floating text may also be a word for a number that is not finite.

Main definitions:

- `Decimal`: a sign, an integer of digits and a power of ten.
- `Decimal.read?`: the decimal that a floating literal denotes.
- `Decimal.nearest?`: the finite binary64 number nearest to a decimal.
- `FloatReading`, `readFloat?`: what floating text denotes, literals and words.
- `readInteger?`: the integer that an integer literal denotes.
-/

namespace PanelForms
namespace Number

/-- The decimal `± digits * 10 ^ exponent`. -/
structure Decimal where
  negative : Bool
  digits : Nat
  exponent : Int
  deriving DecidableEq

/-- An ASCII digit. -/
def isDigit (c : Char) : Bool :=
  '0' ≤ c && c ≤ '9'

/-- The number that an ASCII digit denotes. -/
def digitValue (c : Char) : Nat :=
  c.toNat - '0'.toNat

/-- Continue the number `acc` with further digits. -/
def digitsValue (acc : Nat) (cs : List Char) : Nat :=
  cs.foldl (fun n c => 10 * n + digitValue c) acc

/-- The digits at the front of a text, and the rest. -/
def spanDigits (cs : List Char) : List Char × List Char :=
  (cs.takeWhile isDigit, cs.dropWhile isDigit)

/-- An optional sign at the front of a text; the flag says that it is a minus. -/
def splitSign : List Char → Bool × List Char
  | '+' :: rest => (false, rest)
  | '-' :: rest => (true, rest)
  | cs => (false, cs)

/-- The integer that a whole text denotes: an optional sign and at least one digit. -/
def readInteger? (cs : List Char) : Option Int :=
  let (negative, body) := splitSign cs
  if body.isEmpty || !body.all isDigit then none
  else
    let n := digitsValue 0 body
    some (if negative then -(n : Int) else (n : Int))

namespace Decimal

/-- The exponent part of a floating literal, which must be the whole text: nothing, or `e` or
`E`, an optional sign and at least one digit. -/
def readExponent? : List Char → Option Int
  | [] => some 0
  | c :: rest => if c = 'e' ∨ c = 'E' then readInteger? rest else none

/-- The decimal that a whole text denotes as a floating literal. -/
def read? (cs : List Char) : Option Decimal :=
  let (negative, body) := splitSign cs
  let (whole, afterWhole) := spanDigits body
  let (fraction, rest) :=
    match afterWhole with
    | '.' :: tail => spanDigits tail
    | other => ([], other)
  if whole.isEmpty && fraction.isEmpty then none
  else
    (readExponent? rest).map fun exponent =>
      ⟨negative, digitsValue 0 (whole ++ fraction), exponent - fraction.length⟩

/-- The finite number nearest to a decimal, none if it is too great.  A nonzero decimal with a
power of ten past 400 is too great, and one that stays below `10 ^ (-400)` is nearest to zero;
between these bounds the quotient is rounded. -/
def nearest? (d : Decimal) : Option Binary64 :=
  if d.digits = 0 then some (.zero d.negative)
  else if 400 < d.exponent then none
  else if d.exponent + (Nat.log2 d.digits : Int) < -400 then some (.zero d.negative)
  else if 0 ≤ d.exponent then
    Binary64.ofQuotient? d.negative (d.digits * powerOfTen d.exponent.toNat) 1
  else
    Binary64.ofQuotient? d.negative d.digits (powerOfTen (-d.exponent).toNat)

end Decimal

/-- The finite number nearest to a floating literal. -/
def readBinary64? (cs : List Char) : Option Binary64 :=
  (Decimal.read? cs).bind Decimal.nearest?

/-- What floating text denotes: a finite number, a number too great to be finite, or no number at
all. -/
inductive FloatReading where
  | finite (x : Binary64)
  | infinite (negative : Bool)
  | notANumber
  deriving DecidableEq

namespace FloatReading

/-- The finite number that was read, if one was. -/
def finite? : FloatReading → Option Binary64
  | .finite x => some x
  | _ => none

/-- The nearest number to a decimal, which is infinite if no finite one is near enough. -/
def ofDecimal (d : Decimal) : FloatReading :=
  match d.nearest? with
  | some x => .finite x
  | none => .infinite d.negative

/-- What a word after an optional sign denotes, in whichever case its letters are. -/
def ofWord? (cs : List Char) : Option FloatReading :=
  let (negative, body) := splitSign cs
  let word := body.map Char.toLower
  if word = ['i', 'n', 'f'] ∨ word = ['i', 'n', 'f', 'i', 'n', 'i', 't', 'y'] then
    some (.infinite negative)
  else if word = ['n', 'a', 'n'] then some .notANumber
  else none

end FloatReading

/-- What a whole text denotes as a floating number: a literal, or a word. -/
def readFloat? (cs : List Char) : Option FloatReading :=
  match Decimal.read? cs with
  | some d => some (FloatReading.ofDecimal d)
  | none => FloatReading.ofWord? cs

/-- The finite numbers that are read are those nearest to a literal; a word denotes none. -/
theorem bind_finite?_readFloat? (cs : List Char) :
    (readFloat? cs).bind FloatReading.finite? = readBinary64? cs := by
  unfold readFloat? readBinary64?
  cases Decimal.read? cs with
  | some d =>
    simp only [Option.bind_some, FloatReading.ofDecimal]
    cases d.nearest? <;> rfl
  | none =>
    simp only [FloatReading.ofWord?, Option.bind_none]
    split
    · rfl
    · split <;> rfl

end Number
end PanelForms

import PanelForms.Number.Decimal

/-!
# Shortest decimal text of a binary64 number

A finite number is written with the fewest digits that read back as the same number.  On the
grid of `n` significant digits only the two neighbours of the number can be nearest to it; the
first grid with a neighbour that reads back is taken, of two such neighbours the nearer, and of
two equally near ones the one with an even last digit.

Main definitions:

- `DecimalStyle`: where positional text ends and how an exponent is written.
- `DecimalStyle.text`: the text of a decimal in a style.
- `neighbours`: the two decimals of a grid around a number.
- `DecimalStyle.shortest`: the shortest text that reads back.
-/

namespace PanelForms
namespace Number

/-- How decimals are spelled.  The text is positional when the exponent of the leading digit is
between the bounds, and has an exponent otherwise; positional text always has a fraction. -/
structure DecimalStyle where
  leastPositional : Int
  greatestPositional : Int
  plusSign : Bool
  deriving DecidableEq

/-- The decimal digits of a natural number, most significant first. -/
def digitsOf (n : Nat) : List Char :=
  Nat.toDigits 10 n

/-- The text of an integer: a minus sign if it is negative, then its digits. -/
def integerText (n : Int) : String :=
  if n < 0 then String.ofList ('-' :: digitsOf n.natAbs) else String.ofList (digitsOf n.natAbs)

/-- Drop the zeros at the end, but never the first digit. -/
def dropTrailingZeros : List Char → List Char
  | [] => []
  | c :: rest => c :: (rest.reverse.dropWhile (· = '0')).reverse

namespace DecimalStyle

/-- The digits with a point after the leading digit's place `place`. -/
def positional (digits : List Char) (place : Int) : List Char :=
  if place < 0 then
    '0' :: '.' :: (List.replicate (place.natAbs - 1) '0' ++ digits)
  else
    let whole := place.toNat + 1
    if digits.length ≤ whole then
      digits ++ List.replicate (whole - digits.length) '0' ++ ['.', '0']
    else
      digits.take whole ++ '.' :: digits.drop whole

/-- The leading digit, a point before any further ones, and the exponent. -/
def scientific (style : DecimalStyle) (digits : List Char) (place : Int) : List Char :=
  let mantissa :=
    match digits with
    | c :: d :: rest => c :: '.' :: d :: rest
    | short => short
  let sign := if place < 0 then ['-'] else if style.plusSign then ['+'] else []
  mantissa ++ 'e' :: (sign ++ digitsOf place.natAbs)

/-- The text of a decimal.  Zero keeps its sign and is positional. -/
def text (style : DecimalStyle) (d : Decimal) : List Char :=
  let sign := if d.negative then ['-'] else []
  if d.digits = 0 then sign ++ ['0', '.', '0']
  else
    let all := digitsOf d.digits
    let place := d.exponent + (all.length - 1 : Nat)
    let digits := dropTrailingZeros all
    sign ++
      (if style.leastPositional ≤ place ∧ place ≤ style.greatestPositional then
        positional digits place
      else
        style.scientific digits place)

end DecimalStyle

/-- The place of the leading digit of `num / den`, which must be positive: the units have place
`0`, the tenths `-1`. -/
def leadingPlace (num den : Nat) : Int :=
  if den ≤ num then ((digitsOf (num / den)).length - 1 : Nat)
  else -((digitsOf ((den - 1) / num)).length : Int)

/-- The two decimals around a number on the grid of `count` significant digits, the nearer one
first and the one with an even last digit on a tie. -/
def neighbours (x : Binary64) (count : Nat) : List Decimal :=
  let place := leadingPlace x.units unitsPerOne - (count - 1 : Nat)
  let num := if 0 ≤ place then x.units else x.units * powerOfTen (-place).toNat
  let den := if 0 ≤ place then unitsPerOne * powerOfTen place.toNat else unitsPerOne
  let below := num / den
  let low : Decimal := ⟨x.negative, below, place⟩
  let high : Decimal := ⟨x.negative, below + 1, place⟩
  let twice := 2 * (num % den)
  if twice < den ∨ (twice = den ∧ below % 2 = 0) then [low, high] else [high, low]

/-- Every digit of a number: it is a whole multiple of `2 ^ (-1074)`. -/
def exactDecimal (x : Binary64) : Decimal :=
  ⟨x.negative, x.units * powerOfTen 1074 / unitsPerOne, -1074⟩

/-- The decimals tried for a number: the neighbours on the grids of one to seventeen digits. -/
def candidates (x : Binary64) : List Decimal :=
  (List.range 17).flatMap fun i => neighbours x (i + 1)

/-- The first candidate text that reads back as the number, in a style; every digit if there is
none. -/
def DecimalStyle.shortest (style : DecimalStyle) (x : Binary64) : List Char :=
  if x.rank = 0 then style.text ⟨x.negative, 0, 0⟩
  else
    (((candidates x).map style.text).find? fun t => readBinary64? t == some x).getD
      (style.text (exactDecimal x))

end Number
end PanelForms

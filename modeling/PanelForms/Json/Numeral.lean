import PanelForms.Json.Basic
import PanelForms.Number.Decimal

/-!
# JSON numerals

A numeral without point and exponent that fits its range is an integer; every other numeral is a
float.  The digits of a float are gathered into a significand of 64 bits, digits past it only
count as places, and the significand is scaled by a power of ten in rounded binary64 arithmetic.

Main definitions:

- `scale?`: a significand times a power of ten.
- `readNumeral`: the number at the front of a text, and the rest of the text.
-/

namespace PanelForms

/-- Why a text is not a JSON value: it ends too early, or something stands where it must not. -/
inductive ParseFailure where
  | unexpectedEnd
  | malformed
  deriving DecidableEq

namespace Json

open Number

/-- The greatest significand that is gathered. -/
def significandLimit : Nat := powerOfTwo 64 - 1

/-- The binary64 number nearest to a natural number that is not too great for one, else the
greatest finite number. -/
def nearestNat (n : Nat) : Binary64 :=
  (Binary64.ofQuotient? false n 1).getD ⟨false, overflowRank - 1, by decide⟩

/-- The binary64 number nearest to a number. -/
def nearest : JsonNumber → Binary64
  | .float x => x
  | .integer n =>
    let x := nearestNat n.natAbs
    if n < 0 then x.neg else x

/-- Scale a nonnegative number by a power of ten: one rounded product or quotient for at most
308 places, further quotients by `10 ^ 308` before it for more places below the point.  Too great
a result is none. -/
def scale? (x : Binary64) (exponent : Int) : Option Binary64 :=
  if exponent < -308 then
    if x.rank = 0 then some x
    else (x.div? (nearestNat (powerOfTen 308))).bind fun y => scale? y (exponent + 308)
  else if exponent < 0 then x.div? (nearestNat (powerOfTen exponent.natAbs))
  else if exponent ≤ 308 then x.mul? (nearestNat (powerOfTen exponent.natAbs))
  else if x.rank = 0 then some x
  else none
termination_by exponent.natAbs
decreasing_by omega

/-- The float of a sign, a significand and a power of ten. -/
def floatOfParts (negative : Bool) (significand : Nat) (exponent : Int) :
    Except ParseFailure JsonNumber :=
  match scale? (nearestNat significand) exponent with
  | some x => .ok (.float (if negative then x.neg else x))
  | none => .error .malformed

/-- Gather the digits at the front of a text while the significand fits.  The result is the
significand, the number of digits gathered, whether a digit was left over, and the rest. -/
def gather (significand : Nat) (count : Nat) : List Char → Nat × Nat × Bool × List Char
  | c :: rest =>
    if isDigit c then
      let next := 10 * significand + digitValue c
      if next ≤ significandLimit then gather next (count + 1) rest
      else (significand, count, true, c :: rest)
    else (significand, count, false, c :: rest)
  | [] => (significand, count, false, [])

/-- The exponent after its mark, which moves the point of a float. -/
def readScaled (negative : Bool) (significand : Nat) (exponent : Int) :
    List Char → Except ParseFailure (JsonNumber × List Char)
  | mark :: rest =>
    if mark = 'e' ∨ mark = 'E' then
      let (down, body) := splitSign rest
      match body with
      | [] => .error .unexpectedEnd
      | c :: _ =>
        if isDigit c then
          let (digits, after) := spanDigits body
          let places : Int := digitsValue 0 digits
          (floatOfParts negative significand (if down then exponent - places else exponent + places)).map
            fun n => (n, after)
        else .error .malformed
    else (floatOfParts negative significand exponent).map fun n => (n, mark :: rest)
  | [] => (floatOfParts negative significand exponent).map fun n => (n, [])

/-- The fraction after the point, which must have a digit, and what follows it. -/
def readFraction (negative : Bool) (significand : Nat) (exponent : Int) (cs : List Char) :
    Except ParseFailure (JsonNumber × List Char) :=
  match gather significand 0 cs with
  | (gathered, count, true, rest) =>
    readScaled negative gathered (exponent - count) (rest.dropWhile isDigit)
  | (gathered, count, false, rest) =>
    if count = 0 then .error (if rest.isEmpty then .unexpectedEnd else .malformed)
    else readScaled negative gathered (exponent - count) rest

/-- An integer if it has no fraction and no exponent and fits; minus zero and the integers below
`-2 ^ 63` are floats. -/
def readWhole (negative : Bool) (n : Nat) : List Char → Except ParseFailure (JsonNumber × List Char)
  | '.' :: rest => readFraction negative n 0 rest
  | 'e' :: rest => readScaled negative n 0 ('e' :: rest)
  | 'E' :: rest => readScaled negative n 0 ('E' :: rest)
  | rest =>
    if !negative then .ok (.integer n, rest)
    else if 0 < n ∧ n ≤ powerOfTwo 63 then .ok (.integer (-(n : Int)), rest)
    else .ok (.float (nearestNat n).neg, rest)

/-- The number at the front of a text, without its minus sign. -/
def readUnsigned (negative : Bool) : List Char → Except ParseFailure (JsonNumber × List Char)
  | [] => .error .unexpectedEnd
  | '0' :: rest =>
    match rest with
    | c :: _ => if isDigit c then .error .malformed else readWhole negative 0 rest
    | [] => readWhole negative 0 []
  | c :: rest =>
    if isDigit c then
      match gather 0 0 (c :: rest) with
      | (n, _, false, rest) => readWhole negative n rest
      | (n, _, true, rest) =>
        let (skipped, rest) := spanDigits rest
        let exponent : Int := skipped.length
        match rest with
        | '.' :: tail => readFraction negative n exponent tail
        | tail => readScaled negative n exponent tail
    else .error .malformed

/-- The number at the front of a text. -/
def readNumeral : List Char → Except ParseFailure (JsonNumber × List Char)
  | '-' :: rest => readUnsigned true rest
  | rest => readUnsigned false rest

end Json
end PanelForms

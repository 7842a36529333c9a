import PanelForms.Number.Power

/-!
# Finite binary64 numbers

A number that is not written as an integer is a finite binary64 number.  The nonnegative finite
ones are ordered, so a magnitude is held by its position in that order: rank `0` is zero, rank
`1` the least positive number, and every further rank the next greater number.  All magnitudes
are whole multiples of the least positive one, so they are compared and rounded in natural
numbers.

Main definitions:

- `Binary64`: a sign and a rank.
- `unitsOfRank`: the magnitude of a rank, counted in least positive numbers.
- `rankOfQuotient`: the nearest rank to a quotient, an even rank on a tie.
- `Binary64.mul?`, `Binary64.div?`: the rounded product and quotient.
-/

namespace PanelForms
namespace Number

/-- Fractions of one binade: the significand has 53 bits, the leading one implied. -/
def binadeSize : Nat := powerOfTwo 52

/-- The first rank past the finite numbers. -/
def overflowRank : Nat := 2047 * binadeSize

/-- The number one, counted in least positive numbers, is `2 ^ 1074`. -/
def unitsPerOne : Nat := powerOfTwo 1074

/-- The magnitude of a rank, counted in least positive numbers.  The first two binades are
evenly spaced; after them the spacing doubles from each binade to the next. -/
def unitsOfRank (rank : Nat) : Nat :=
  if rank < binadeSize then rank
  else (binadeSize + rank % binadeSize) * powerOfTwo (rank / binadeSize - 1)

/-- A quotient rounded to the nearest natural number, to the even one on a tie. -/
def roundHalfEven (num den : Nat) : Nat :=
  let quotient := num / den
  let twice := 2 * (num % den)
  if twice < den then quotient
  else if den < twice then quotient + 1
  else quotient + quotient % 2

/-- The rank nearest to `num / den`.  The quotient in least positive numbers fixes the spacing,
the quotient by that spacing is rounded to an integer, and a carry out of the binade is the first
rank of the next one.  The rank is at least `overflowRank` exactly when the quotient is too
great for a finite number. -/
def rankOfQuotient (num den : Nat) : Nat :=
  let units := num * unitsPerOne
  let doublings := (units / den).log2 - 52
  doublings * binadeSize + roundHalfEven units (den * powerOfTwo doublings)

end Number

/-- A finite binary64 number: its sign and the position of its magnitude among the nonnegative
finite numbers. -/
structure Binary64 where
  negative : Bool
  rank : Nat
  rank_lt : rank < Number.overflowRank

namespace Binary64

open Number

instance : DecidableEq Binary64 := fun a b =>
  if h : a.negative = b.negative ∧ a.rank = b.rank then
    isTrue (by cases a; cases b; obtain ⟨rfl, rfl⟩ := h; rfl)
  else
    isFalse (fun he => h ⟨congrArg Binary64.negative he, congrArg Binary64.rank he⟩)

/-- Positive or negative zero. -/
def zero (negative : Bool) : Binary64 :=
  ⟨negative, 0, by decide⟩

instance : Inhabited Binary64 :=
  ⟨zero false⟩

/-- The number of a sign and a rank, if the rank is one of a finite number. -/
def ofRank? (negative : Bool) (rank : Nat) : Option Binary64 :=
  if h : rank < overflowRank then some ⟨negative, rank, h⟩ else none

/-- The finite number nearest to a signed quotient, if there is one. -/
def ofQuotient? (negative : Bool) (num den : Nat) : Option Binary64 :=
  ofRank? negative (rankOfQuotient num den)

/-- The magnitude, counted in least positive numbers. -/
def units (x : Binary64) : Nat :=
  unitsOfRank x.rank

/-- Numerical equality, under which the two zeros are one number. -/
def same (x y : Binary64) : Bool :=
  x.rank == y.rank && (x.negative == y.negative || x.rank == 0)

/-- The rounded product; none if it is too great. -/
def mul? (x y : Binary64) : Option Binary64 :=
  ofQuotient? (x.negative != y.negative) (x.units * y.units) (unitsPerOne * unitsPerOne)

/-- The rounded quotient by a nonzero number; none if it is too great. -/
def div? (x y : Binary64) : Option Binary64 :=
  ofQuotient? (x.negative != y.negative) x.units y.units

/-- The number of the other sign. -/
def neg (x : Binary64) : Binary64 :=
  ⟨!x.negative, x.rank, x.rank_lt⟩

/-- The sign bit over the 63 bits of the rank: the interchange encoding. -/
def toBits (x : Binary64) : UInt64 :=
  UInt64.ofNat ((if x.negative then powerOfTwo 63 else 0) + x.rank)

end Binary64
end PanelForms

import Mathlib.Tactic.Linarith
import Mathlib.Tactic.NormNum
import Mathlib.Tactic.Positivity
import PanelForms.Proofs.Number.Literal

/-!
# Numbers that are read back

A decimal whose value is a binary64 number is read as that number, however it is written.  The
shortest text of a number was found by reading it back, and where none was found all digits are
written, so the text of a number always denotes it.

Main results:

- Theorem `Number.rankOfQuotient_eq`: a quotient that is the magnitude of a rank has that rank.
- Theorem `Decimal.nearest?_of_value`: a decimal of the value of a number is nearest to it.
- Theorem `DecimalStyle.readBinary64?_shortest`: the text of a number denotes it.
-/

namespace PanelForms
namespace Number

/-! ## Magnitudes -/

theorem binadeSize_pos : 0 < binadeSize :=
  powerOfTwo_pos 52

theorem unitsPerOne_pos : 0 < unitsPerOne :=
  powerOfTwo_pos 1074

/-- The powers of two grow with their exponents. -/
theorem powerOfTwo_le {m n : Nat} (h : m ≤ n) : powerOfTwo m ≤ powerOfTwo n :=
  Nat.pow_le_pow_right Nat.two_pos h

/-- The significand of a rank, which its magnitude is a power of two times. -/
def significand (rank : Nat) : Nat :=
  if rank < binadeSize then rank else binadeSize + rank % binadeSize

/-- How often the magnitude of a rank doubles its significand. -/
def doublings (rank : Nat) : Nat :=
  rank / binadeSize - 1

/-- The magnitude of a rank is its significand, doubled as often as its binade says. -/
theorem unitsOfRank_eq (rank : Nat) :
    unitsOfRank rank = significand rank * powerOfTwo (doublings rank) := by
  unfold unitsOfRank significand doublings
  split
  next hlt => rw [Nat.div_eq_of_lt hlt, powerOfTwo_zero, Nat.mul_one]
  next => rfl

/-- A rank is its binade and the place in it. -/
theorem doublings_mul_add (rank : Nat) :
    doublings rank * binadeSize + significand rank = rank := by
  unfold significand doublings
  split
  next hlt => rw [Nat.div_eq_of_lt hlt, Nat.zero_sub, Nat.zero_mul, Nat.zero_add]
  next hge =>
    have hdiv : 0 < rank / binadeSize := Nat.div_pos (Nat.le_of_not_lt hge) binadeSize_pos
    have hsplit := Nat.div_add_mod' rank binadeSize
    have hpred : (rank / binadeSize - 1) * binadeSize + binadeSize =
        rank / binadeSize * binadeSize := by
      rw [← Nat.succ_mul, Nat.succ_eq_add_one, Nat.sub_add_cancel hdiv]
    omega

/-- Significands have 53 bits. -/
theorem significand_lt (rank : Nat) : significand rank < 2 ^ 53 := by
  have hsize : binadeSize = 2 ^ 52 := rfl
  have hmod := Nat.mod_lt rank binadeSize_pos
  unfold significand
  split <;> omega

/-- The magnitude of a rank tells how often its significand was doubled. -/
theorem log2_unitsOfRank (rank : Nat) : (unitsOfRank rank).log2 - 52 = doublings rank := by
  have hsize : binadeSize = 2 ^ 52 := rfl
  by_cases hlt : rank < binadeSize
  · have hdoublings : doublings rank = 0 := by
      rw [doublings, Nat.div_eq_of_lt hlt]
    have hunits : unitsOfRank rank = rank := if_pos hlt
    rw [hdoublings, hunits]
    by_cases hzero : rank = 0
    · subst hzero
      rfl
    · have hlog := (Nat.log2_lt hzero).2 (hsize ▸ hlt)
      omega
  · have hlow : 2 ^ 52 ≤ significand rank := by
      rw [significand, if_neg hlt, hsize]
      exact Nat.le_add_right _ _
    have hlog : (unitsOfRank rank).log2 = 52 + doublings rank := by
      rw [unitsOfRank_eq]
      refine (Nat.log2_eq_iff ?_).2 ⟨?_, ?_⟩
      · exact Nat.mul_ne_zero (by omega) (powerOfTwo_pos _).ne'
      · rw [Nat.pow_add]
        exact Nat.mul_le_mul_right _ hlow
      · rw [show 52 + doublings rank + 1 = 53 + doublings rank by omega, Nat.pow_add]
        exact Nat.mul_lt_mul_of_pos_right (significand_lt rank) (powerOfTwo_pos _)
    omega

/-- Only the rank zero has no magnitude. -/
theorem unitsOfRank_ne_zero {rank : Nat} (h : rank ≠ 0) : unitsOfRank rank ≠ 0 := by
  unfold unitsOfRank
  split
  · exact h
  · exact Nat.mul_ne_zero (by have := binadeSize_pos; omega) (powerOfTwo_pos _).ne'

/-- No finite magnitude has more than 53 bits in the last binade. -/
theorem unitsOfRank_lt {rank : Nat} (h : rank < overflowRank) :
    unitsOfRank rank < 2 ^ 53 * powerOfTwo 2045 := by
  have hdoublings : doublings rank ≤ 2045 := by
    have hdiv : rank / binadeSize < 2047 := Nat.div_lt_of_lt_mul (Nat.mul_comm _ _ ▸ h)
    unfold doublings
    omega
  rw [unitsOfRank_eq]
  exact Nat.mul_lt_mul_of_lt_of_le (significand_lt rank)
    (powerOfTwo_le hdoublings) (powerOfTwo_pos _)

/-! ## Rounding what is exact -/

/-- A quotient that is an integer is not rounded. -/
theorem roundHalfEven_mul (n : Nat) {den : Nat} (hden : 0 < den) :
    roundHalfEven (n * den) den = n := by
  simp [roundHalfEven, Nat.mul_div_cancel n hden, hden]

/-- A quotient that is the magnitude of a rank has that rank. -/
theorem rankOfQuotient_eq {num den rank : Nat} (hden : 0 < den)
    (h : num * unitsPerOne = unitsOfRank rank * den) : rankOfQuotient num den = rank := by
  have hround : unitsOfRank rank * den =
      significand rank * (den * powerOfTwo (doublings rank)) := by
    rw [unitsOfRank_eq]
    ring
  simp only [rankOfQuotient, h, Nat.mul_div_cancel _ hden, log2_unitsOfRank]
  rw [hround, roundHalfEven_mul _ (Nat.mul_pos hden (powerOfTwo_pos _)), doublings_mul_add]

/-- A quotient that is the magnitude of a finite number is read as that number. -/
theorem ofQuotient?_eq {x : Binary64} {num den : Nat} (hden : 0 < den)
    (h : num * unitsPerOne = x.units * den) :
    Binary64.ofQuotient? x.negative num den = some x := by
  rw [Binary64.ofQuotient?, rankOfQuotient_eq hden h, Binary64.ofRank?, dif_pos x.rank_lt]

/-! ## Decimals that are numbers -/

/-- The magnitude of a number. -/
def magnitude (x : Binary64) : ℚ :=
  x.units / unitsPerOne

theorem cast_unitsPerOne_pos : (0 : ℚ) < unitsPerOne := by
  exact_mod_cast unitsPerOne_pos

/-- A finite number is less than `10 ^ 400`. -/
theorem magnitude_lt (x : Binary64) : magnitude x < 10 ^ ((400 : ℕ) : ℤ) := by
  have hbound : 2 ^ 53 * powerOfTwo 2045 ≤ powerOfTen 400 * unitsPerOne := by decide +kernel
  have hunits : x.units < powerOfTen 400 * unitsPerOne :=
    (unitsOfRank_lt x.rank_lt).trans_le hbound
  rw [magnitude, div_lt_iff₀ cast_unitsPerOne_pos, ← cast_powerOfTen]
  exact_mod_cast hunits

/-- A positive number is at least `2 / 10 ^ 401`. -/
theorem le_magnitude {x : Binary64} (h : x.rank ≠ 0) :
    2 / 10 ^ ((401 : ℕ) : ℤ) ≤ magnitude x := by
  have hbound : 2 * unitsPerOne ≤ powerOfTen 401 := by decide +kernel
  have hpos : 1 ≤ x.units := Nat.one_le_iff_ne_zero.2 (unitsOfRank_ne_zero h)
  have hunits : 2 * unitsPerOne ≤ x.units * powerOfTen 401 :=
    hbound.trans (Nat.le_mul_of_pos_left _ hpos)
  have hten : (0 : ℚ) < powerOfTen 401 := by exact_mod_cast powerOfTen_pos 401
  rw [magnitude, ← cast_powerOfTen, div_le_div_iff₀ hten cast_unitsPerOne_pos]
  exact_mod_cast hunits

namespace Decimal

variable {d : Decimal} {x : Binary64}

/-- A decimal with digits is at least its power of ten. -/
theorem le_value (h : d.digits ≠ 0) : (10 : ℚ) ^ d.exponent ≤ d.value := by
  have hdigits : (1 : ℚ) ≤ d.digits := by exact_mod_cast Nat.one_le_iff_ne_zero.2 h
  exact le_mul_of_one_le_left (by positivity) hdigits

/-- A decimal is less than twice the power of ten that its binary digits count up to. -/
theorem value_lt (d : Decimal) : d.value < 2 * 10 ^ (d.exponent + (d.digits.log2 : ℤ)) := by
  have hdigits : (d.digits : ℚ) < 2 * 10 ^ d.digits.log2 := by
    have hlog : d.digits < 2 ^ (d.digits.log2 + 1) := Nat.lt_log2_self
    have hpow : 2 ^ d.digits.log2 ≤ 10 ^ d.digits.log2 := Nat.pow_le_pow_left (by decide) _
    have hlt : d.digits < 2 * 10 ^ d.digits.log2 := by
      rw [Nat.pow_succ] at hlog
      omega
    exact_mod_cast hlt
  have hten : (10 : ℚ) ≠ 0 := by norm_num
  have hpower : (0 : ℚ) < 10 ^ d.exponent := by positivity
  calc d.value < 2 * 10 ^ d.digits.log2 * 10 ^ d.exponent :=
        mul_lt_mul_of_pos_right hdigits hpower
    _ = 2 * 10 ^ (d.exponent + (d.digits.log2 : ℤ)) := by
        rw [zpow_add₀ hten, zpow_natCast]
        ring

/-- A decimal of the magnitude of a number other than zero has a digit other than zero. -/
theorem digits_ne_zero_of_value (hx : x.rank ≠ 0) (hvalue : d.value = magnitude x) :
    d.digits ≠ 0 := by
  intro hzero
  have hle := le_magnitude hx
  have hpos : (0 : ℚ) < 2 / 10 ^ ((401 : ℕ) : ℤ) := by positivity
  rw [← hvalue, value, hzero, Nat.cast_zero, zero_mul] at hle
  linarith

/-- A decimal of the value of a positive number is nearest to it. -/
theorem nearest?_of_value (hsign : d.negative = x.negative) (hx : x.rank ≠ 0)
    (hvalue : d.value = magnitude x) : d.nearest? = some x := by
  have hscaled : d.value * unitsPerOne = x.units := by
    rw [hvalue, magnitude, div_mul_cancel₀ _ cast_unitsPerOne_pos.ne']
  have hdigits := digits_ne_zero_of_value hx hvalue
  -- A finite number lies between the bounds where the reader stops computing.
  have hsmall : ¬ 400 < d.exponent := by
    intro hlt
    have hpower : (10 : ℚ) ^ ((400 : ℕ) : ℤ) ≤ 10 ^ d.exponent :=
      zpow_le_zpow_right₀ (by norm_num) (by omega)
    have hbound := magnitude_lt x
    rw [← hvalue] at hbound
    linarith [le_value hdigits]
  have hgreat : ¬ d.exponent + (d.digits.log2 : Int) < -400 := by
    intro hlt
    have hpower : (10 : ℚ) ^ (d.exponent + (d.digits.log2 : ℤ)) ≤ 10 ^ (-((401 : ℕ) : ℤ)) :=
      zpow_le_zpow_right₀ (by norm_num) (by omega)
    have hbound := le_magnitude hx
    rw [← hvalue, div_eq_mul_inv, ← zpow_neg] at hbound
    linarith [value_lt d]
  rw [nearest?, if_neg hdigits, if_neg hsmall, if_neg hgreat, hsign]
  split
  next hnonneg =>
    refine ofQuotient?_eq Nat.one_pos ?_
    rw [value, ← Int.toNat_of_nonneg hnonneg, ← cast_powerOfTen] at hscaled
    rw [Nat.mul_one]
    exact_mod_cast hscaled
  next hneg =>
    have hexponent : d.exponent = -((-d.exponent).toNat : ℤ) := by omega
    have hpower : (powerOfTen (-d.exponent).toNat : ℚ) ≠ 0 := by
      exact_mod_cast (powerOfTen_pos _).ne'
    refine ofQuotient?_eq (powerOfTen_pos _) ?_
    rw [value, hexponent, zpow_neg, ← cast_powerOfTen] at hscaled
    field_simp at hscaled
    rw [Nat.mul_comm x.units]
    exact_mod_cast hscaled

end Decimal

/-! ## The text of a number -/

/-- A power of ten is divisible by the same power of two. -/
theorem powerOfTwo_dvd_powerOfTen (n : Nat) : powerOfTwo n ∣ powerOfTen n :=
  pow_dvd_pow_of_dvd (by decide) n

/-- All digits of a number have its value. -/
theorem value_exactDecimal (x : Binary64) : (exactDecimal x).value = magnitude x := by
  have hdvd : unitsPerOne ∣ x.units * powerOfTen 1074 :=
    Nat.dvd_mul_left_of_dvd (powerOfTwo_dvd_powerOfTen 1074) _
  have hdigits : ((exactDecimal x).digits : ℚ) * unitsPerOne = x.units * powerOfTen 1074 := by
    exact_mod_cast Nat.div_mul_cancel hdvd
  have hexponent : (exactDecimal x).exponent = -((1074 : ℕ) : ℤ) := rfl
  have hpower : (powerOfTen 1074 : ℚ) ≠ 0 := by exact_mod_cast (powerOfTen_pos _).ne'
  rw [Decimal.value, magnitude, hexponent, zpow_neg, ← cast_powerOfTen, ← div_eq_mul_inv,
    div_eq_div_iff hpower cast_unitsPerOne_pos.ne', hdigits]

/-- Zero keeps its sign. -/
theorem readBinary64?_zero (style : DecimalStyle) (negative : Bool) :
    readBinary64? (style.text ⟨negative, 0, 0⟩) = some (.zero negative) := by
  cases negative <;> rfl

/-- The text of a number denotes it. -/
theorem DecimalStyle.readBinary64?_shortest (style : DecimalStyle) (x : Binary64) :
    readBinary64? (style.shortest x) = some x := by
  unfold shortest
  split
  next hzero =>
    rw [readBinary64?_zero]
    obtain ⟨negative, rank, hlt⟩ := x
    subst hzero
    rfl
  next hrank =>
    -- A candidate was taken because it is read back; without one all digits are written.
    cases hfind : ((candidates x).map style.text).find? fun t => readBinary64? t == some x with
    | some text => simpa using List.find?_some hfind
    | none =>
      have hdigits := Decimal.digits_ne_zero_of_value hrank (value_exactDecimal x)
      obtain ⟨d, hread, hsign, hvalue⟩ := style.exists_read?_text hdigits
      rw [Option.getD_none, readBinary64?, hread, Option.bind_some]
      exact Decimal.nearest?_of_value hsign hrank (hvalue.trans (value_exactDecimal x))

end Number
end PanelForms

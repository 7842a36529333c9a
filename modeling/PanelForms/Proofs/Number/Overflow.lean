import PanelForms.Proofs.Number.Nearest

/-!
# Where finite numbers end

A decimal is read as a finite number if it lies below the middle between the greatest finite number
and the power of two that would follow it.  The middle itself is a tie, and the even one of its two
neighbours is the one that is too great.

Main results:

- Definition `overflowBound`: the middle past the greatest finite number.
- Theorem `rankOfQuotient_lt_iff`: which quotients round to a finite number.
- Theorem `Decimal.nearest?_isSome_iff`: which decimals have a finite number nearest to them.
-/

namespace PanelForms
namespace Number

/-! ## Rounding to the nearest -/

/-- A quotient that is no less than an integer is not rounded below it. -/
theorem le_roundHalfEven {num den m : Nat} (hden : 0 < den) (h : m * den ≤ num) :
    m ≤ roundHalfEven num den := by
  have hquotient : m ≤ num / den := (Nat.le_div_iff_mul_le hden).2 h
  unfold roundHalfEven
  dsimp only
  split
  · exact hquotient
  · split <;> omega

/-- A quotient that is less than an integer is not rounded above it. -/
theorem roundHalfEven_le {num den m : Nat} (hden : 0 < den) (h : num < m * den) :
    roundHalfEven num den ≤ m := by
  have hquotient : num / den < m := (Nat.div_lt_iff_lt_mul hden).2 h
  unfold roundHalfEven
  dsimp only
  split
  · omega
  · split <;> omega

/-- A quotient rounds to less than an even number if it is more than half below it. -/
theorem roundHalfEven_lt_iff {num den m : Nat} (hden : 0 < den) (hm : m % 2 = 0) :
    roundHalfEven num den < m ↔ 2 * num + den < 2 * (m * den) := by
  have hnum := Nat.div_add_mod' num den
  have hremainder := Nat.mod_lt num hden
  rcases lt_trichotomy (num / den + 1) m with hbelow | hnext | habove
  · have hmul : (num / den + 2) * den ≤ m * den := Nat.mul_le_mul_right den hbelow
    have hround : roundHalfEven num den < m := by
      unfold roundHalfEven
      dsimp only
      split
      · omega
      · split <;> omega
    rw [Nat.add_mul] at hmul
    exact iff_of_true hround (by omega)
  · -- The quotient is in the last step below `m`, from an odd number.
    have hmul : m * den = num / den * den + den := by rw [← hnext, Nat.succ_mul]
    unfold roundHalfEven
    dsimp only
    split
    · omega
    · split <;> omega
  · have hmul : m * den ≤ num / den * den := Nat.mul_le_mul_right den (by omega)
    have hround := le_roundHalfEven hden (hmul.trans (Nat.div_mul_le_self num den))
    exact iff_of_false hround.not_gt (by omega)

/-! ## The bound -/

/-- The least magnitude that is too great for a finite number: half a step above the greatest
one. -/
def overflowBound : ℚ :=
  (2 ^ 54 - 1) * 2 ^ 970

/-- Doublings add up. -/
theorem powerOfTwo_add (m n : Nat) : powerOfTwo (m + n) = powerOfTwo m * powerOfTwo n :=
  Nat.pow_add 2 m n

theorem cast_powerOfTwo (n : ℕ) : (powerOfTwo n : ℚ) = 2 ^ n :=
  Nat.cast_pow 2 n

/-- The bound of the finite numbers is an integer. -/
theorem cast_overflowBound : (((2 ^ 54 - 1) * powerOfTwo 970 : ℕ) : ℚ) = overflowBound := by
  have hsteps : ((2 ^ 54 - 1 : ℕ) : ℚ) = 2 ^ 54 - 1 := by norm_num
  rw [overflowBound, Nat.cast_mul, hsteps, cast_powerOfTwo]

theorem overflowBound_pos : 0 < overflowBound := by
  rw [← cast_overflowBound]
  exact_mod_cast Nat.mul_pos (by decide) (powerOfTwo_pos 970)

/-- The bound of the finite numbers has no more than 400 digits. -/
theorem overflowBound_lt : overflowBound < 10 ^ ((400 : ℕ) : ℤ) := by
  have hlt : (2 ^ 54 - 1) * powerOfTwo 970 < powerOfTen 400 := by decide +kernel
  rw [← cast_overflowBound, ← cast_powerOfTen]
  exact_mod_cast hlt

/-- The bound of the finite numbers is above one. -/
theorem one_lt_overflowBound : 1 < overflowBound := by
  have hlt : 1 < (2 ^ 54 - 1) * powerOfTwo 970 := by decide +kernel
  rw [← cast_overflowBound]
  exact_mod_cast hlt

section rank

variable {units den : Nat}

/-- How far the spacing at a magnitude reaches from both sides. -/
theorem units_lt_of_log2 (hden : 0 < den) :
    units < 2 ^ 53 * (den * powerOfTwo ((units / den).log2 - 52)) := by
  have hlog : units / den < 2 ^ ((units / den).log2 + 1) := Nat.lt_log2_self
  have hle : 2 ^ ((units / den).log2 + 1) ≤ 2 ^ 53 * powerOfTwo ((units / den).log2 - 52) := by
    rw [powerOfTwo, Nat.pow_eq, ← Nat.pow_add]
    exact Nat.pow_le_pow_right Nat.two_pos (by omega)
  have hlt := (Nat.div_lt_iff_lt_mul hden).1 (hlog.trans_le hle)
  rwa [Nat.mul_assoc, Nat.mul_comm (powerOfTwo _)] at hlt

/-- A significand that is rounded has at least 53 bits. -/
theorem le_units_of_log2 (hden : 0 < den) (hlog : 52 < (units / den).log2) :
    2 ^ 52 * (den * powerOfTwo ((units / den).log2 - 52)) ≤ units := by
  have hne : units / den ≠ 0 := by
    intro hzero
    rw [hzero, Nat.log2_zero] at hlog
    omega
  have hle : 2 ^ (units / den).log2 ≤ units / den := Nat.log2_self_le hne
  have hpow : 2 ^ (units / den).log2 = 2 ^ 52 * powerOfTwo ((units / den).log2 - 52) := by
    rw [powerOfTwo, Nat.pow_eq, ← Nat.pow_add]
    congr 1
    omega
  have hmul := (Nat.le_div_iff_mul_le hden).1 (hpow ▸ hle)
  rwa [Nat.mul_assoc, Nat.mul_comm (powerOfTwo _)] at hmul

/-- In least positive numbers, the bound is `(2 ^ 54 - 1) * 2 ^ 2044`. -/
theorem rankOfQuotient_lt_iff {num : Nat} (hden : 0 < den) :
    rankOfQuotient num den < overflowRank ↔
      num * unitsPerOne < (2 ^ 54 - 1) * (den * powerOfTwo 2044) := by
  have hsize : binadeSize = 2 ^ 52 := rfl
  have hoverflow : overflowRank = 2047 * 2 ^ 52 := rfl
  simp only [rankOfQuotient, hoverflow, hsize]
  generalize num * unitsPerOne = units
  have hceil : units < 2 ^ 53 * (den * powerOfTwo ((units / den).log2 - 52)) :=
    units_lt_of_log2 hden
  have hscaled : 0 < den * powerOfTwo ((units / den).log2 - 52) :=
    Nat.mul_pos hden (powerOfTwo_pos _)
  rcases lt_trichotomy ((units / den).log2 - 52) 2045 with hless | heq | hmore
  · -- Below the last binade everything is finite.
    have hround := roundHalfEven_le hscaled hceil
    have hpower : den * powerOfTwo ((units / den).log2 - 52) ≤ den * powerOfTwo 2044 :=
      Nat.mul_le_mul_left den (powerOfTwo_le (by omega))
    exact iff_of_true (by omega) (by omega)
  · -- In the last binade the carry out of it decides.
    have hpower : den * powerOfTwo 2045 = 2 * (den * powerOfTwo 2044) := by
      rw [powerOfTwo_succ, ← Nat.mul_assoc, Nat.mul_comm]
    have hround : roundHalfEven units (den * powerOfTwo ((units / den).log2 - 52)) < 2 ^ 53 ↔ _ :=
      roundHalfEven_lt_iff hscaled (by decide)
    rw [heq] at hround ⊢
    omega
  · have hfloor : 2 ^ 52 * (den * powerOfTwo ((units / den).log2 - 52)) ≤ units :=
      le_units_of_log2 hden (by omega)
    have hround := le_roundHalfEven hscaled hfloor
    have hpower : den * powerOfTwo 2046 ≤ den * powerOfTwo ((units / den).log2 - 52) :=
      Nat.mul_le_mul_left den (powerOfTwo_le (by omega))
    have hfour : den * powerOfTwo 2046 = 4 * (den * powerOfTwo 2044) := by
      rw [powerOfTwo_add 2044 2, ← Nat.mul_assoc, Nat.mul_comm]
      rfl
    exact iff_of_false (by omega) (by omega)

/-- A quotient rounds to a finite number if it is below the bound. -/
theorem ofQuotient?_isSome_iff {negative : Bool} {num : Nat} (hden : 0 < den) :
    (Binary64.ofQuotient? negative num den).isSome ↔ (num : ℚ) / den < overflowBound := by
  have hrank : (Binary64.ofQuotient? negative num den).isSome ↔
      rankOfQuotient num den < overflowRank := by
    unfold Binary64.ofQuotient? Binary64.ofRank?
    split
    next hlt => simp [hlt]
    next hge => simp [hge]
  have hcast : (0 : ℚ) < den := by exact_mod_cast hden
  have hpower : den * powerOfTwo 2044 = den * powerOfTwo 970 * unitsPerOne := by
    rw [powerOfTwo_add 970 1074, ← Nat.mul_assoc]
    rfl
  rw [hrank, rankOfQuotient_lt_iff hden, hpower, ← Nat.mul_assoc,
    Nat.mul_lt_mul_right unitsPerOne_pos, div_lt_iff₀ hcast, ← cast_overflowBound,
    Nat.mul_left_comm, Nat.mul_comm den]
  exact_mod_cast Iff.rfl

end rank

namespace Decimal

/-- A decimal has a finite number nearest to it if its value is below the bound. -/
theorem nearest?_isSome_iff (d : Decimal) : d.nearest?.isSome ↔ d.value < overflowBound := by
  unfold nearest?
  split
  next hzero =>
    have hvalue : d.value = 0 := by rw [value, hzero, Nat.cast_zero, zero_mul]
    exact iff_of_true rfl (hvalue ▸ overflowBound_pos)
  next hdigits =>
    split
    next hgreat =>
      have hpower : (10 : ℚ) ^ ((400 : ℕ) : ℤ) ≤ 10 ^ d.exponent :=
        zpow_le_zpow_right₀ (by norm_num) (by omega)
      refine iff_of_false (by simp) ?_
      linarith [le_value hdigits, overflowBound_lt]
    next =>
      split
      next hsmall =>
        have hpower : (10 : ℚ) ^ (d.exponent + (d.digits.log2 : ℤ)) ≤ 10 ^ (-1 : ℤ) :=
          zpow_le_zpow_right₀ (by norm_num) (by omega)
        refine iff_of_true rfl ?_
        calc d.value < 2 * 10 ^ (d.exponent + (d.digits.log2 : ℤ)) := value_lt d
          _ ≤ 2 * 10 ^ (-1 : ℤ) := by linarith
          _ < 1 := by norm_num
          _ < overflowBound := one_lt_overflowBound
      next =>
        split
        next hnonneg =>
          rw [ofQuotient?_isSome_iff Nat.one_pos, Nat.cast_one, div_one, Nat.cast_mul,
            cast_powerOfTen, Int.toNat_of_nonneg hnonneg, value]
        next hneg =>
          have hexponent : ((-d.exponent).toNat : ℤ) = -d.exponent := by omega
          rw [ofQuotient?_isSome_iff (powerOfTen_pos _), cast_powerOfTen, hexponent, zpow_neg,
            div_inv_eq_mul, value]

end Decimal
end Number
end PanelForms

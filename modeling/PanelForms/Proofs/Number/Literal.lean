import Mathlib.Algebra.Order.Field.Power
import Mathlib.Algebra.Order.Field.Rat
import Mathlib.Tactic.FieldSimp
import Mathlib.Tactic.Ring
import PanelForms.Proofs.Number.Digits

/-!
# Decimal text and its value

A decimal is written in several ways, with a point at one of its places or with an exponent, and
with zeros added or dropped.  What is read back may be another decimal than the one that was
written, but it has the same value.

Main results:

- Definition `Decimal.value`: the magnitude of a decimal.
- Theorems `Decimal.read?_of_point` and `Decimal.read?_of_whole`: how a literal is read.
- Theorem `DecimalStyle.exists_read?_text`: the text of a decimal is a literal of its value.
-/

namespace PanelForms
namespace Number

/-! ## Reading literals -/

/-- The text does not begin with a digit. -/
def NoDigitAhead (cs : List Char) : Prop :=
  ∀ c rest, cs = c :: rest → isDigit c = false

/-- All digits in front are taken, and nothing after them. -/
theorem spanDigits_append {ds cs : List Char} (hds : ∀ c ∈ ds, isDigit c = true)
    (hcs : NoDigitAhead cs) : spanDigits (ds ++ cs) = (ds, cs) := by
  have hcut : cs.takeWhile isDigit = [] ∧ cs.dropWhile isDigit = cs := by
    cases cs with
    | nil => exact ⟨rfl, rfl⟩
    | cons c rest =>
      have hc := hcs c rest rfl
      simp [hc]
  rw [spanDigits, List.takeWhile_append_of_pos hds, List.dropWhile_append_of_pos hds, hcut.1,
    hcut.2, List.append_nil]

/-- The sign that a decimal is written with. -/
def signText (negative : Bool) : List Char :=
  if negative then ['-'] else []

/-- The sign that was written is split off again. -/
theorem splitSign_signText {negative : Bool} {cs : List Char} (hne : cs ≠ [])
    (hdigits : ∀ c ∈ cs, isDigit c = true) (rest : List Char) :
    splitSign (signText negative ++ (cs ++ rest)) = (negative, cs ++ rest) := by
  cases negative with
  | true => rfl
  | false => exact splitSign_of_digits hne hdigits rest

namespace Decimal

/-- An exponent part begins with its mark, if there is one at all. -/
theorem ahead_of_readExponent? {tail : List Char} {exponent : Int}
    (h : readExponent? tail = some exponent) :
    NoDigitAhead tail ∧ ∀ rest, tail ≠ '.' :: rest := by
  cases tail with
  | nil => exact ⟨nofun, nofun⟩
  | cons c rest =>
    have hc : c = 'e' ∨ c = 'E' := by
      by_contra hc
      simp [readExponent?, hc] at h
    refine ⟨fun d rest' heq => ?_, fun rest' heq => ?_⟩
    · cases heq
      rcases hc with rfl | rfl <;> decide
    · cases heq
      exact absurd hc (by decide)

section read

variable {negative : Bool} {whole fraction tail : List Char} {exponent : Int}

/-- A literal with a point. -/
theorem read?_of_point (hne : whole ≠ []) (hwhole : ∀ c ∈ whole, isDigit c = true)
    (hfraction : ∀ c ∈ fraction, isDigit c = true) (htail : readExponent? tail = some exponent) :
    read? (signText negative ++ (whole ++ '.' :: (fraction ++ tail))) =
      some ⟨negative, digitsValue 0 (whole ++ fraction), exponent - fraction.length⟩ := by
  have hpoint : NoDigitAhead ('.' :: (fraction ++ tail)) := fun c rest heq => by
    cases heq
    rfl
  have hempty : whole.isEmpty = false := List.isEmpty_eq_false_iff.2 hne
  simp only [read?, splitSign_signText hne hwhole, spanDigits_append hwhole hpoint,
    spanDigits_append hfraction (ahead_of_readExponent? htail).1, hempty, htail,
    Bool.false_and, Bool.false_eq_true, if_false, Option.map_some]

/-- A literal without a point. -/
theorem read?_of_whole (hne : whole ≠ []) (hwhole : ∀ c ∈ whole, isDigit c = true)
    (htail : readExponent? tail = some exponent) :
    read? (signText negative ++ (whole ++ tail)) =
      some ⟨negative, digitsValue 0 whole, exponent⟩ := by
  obtain ⟨hahead, hpoint⟩ := ahead_of_readExponent? htail
  have hempty : whole.isEmpty = false := List.isEmpty_eq_false_iff.2 hne
  simp only [read?, splitSign_signText hne hwhole, spanDigits_append hwhole hahead, hempty,
    htail, Bool.false_and, Bool.false_eq_true, if_false, Option.map_some,
    List.append_nil, List.length_nil, Nat.cast_zero, sub_zero]

end read
end Decimal

/-! ## Values -/

theorem cast_powerOfTen (n : ℕ) : (powerOfTen n : ℚ) = 10 ^ (n : ℤ) := by
  rw [zpow_natCast]
  exact Nat.cast_pow 10 n

/-- The magnitude of a decimal. -/
def Decimal.value (d : Decimal) : ℚ :=
  d.digits * 10 ^ d.exponent

/-! ## Writing literals -/

namespace DecimalStyle

variable {digits : List Char}

/-- Positional text is a literal of the digits, the last of which has its place. -/
theorem read?_positional (negative : Bool) (hne : digits ≠ [])
    (hdigits : ∀ c ∈ digits, isDigit c = true) (place : Int) :
    ∃ zeros : Nat, Decimal.read? (signText negative ++ positional digits place) =
      some ⟨negative, powerOfTen zeros * digitsValue 0 digits,
        place + 1 - digits.length - zeros⟩ := by
  have hzero : ∀ k, ∀ c ∈ List.replicate k '0', isDigit c = true := fun k c hc => by
    rw [List.eq_of_mem_replicate hc]
    rfl
  have hend : Decimal.readExponent? [] = some 0 := rfl
  unfold positional
  dsimp only
  split
  · -- All digits follow the point, after zeros.
    refine ⟨0, ?_⟩
    have hfraction : ∀ c ∈ List.replicate (place.natAbs - 1) '0' ++ digits, isDigit c = true :=
      fun c hc => (List.mem_append.1 hc).elim (hzero _ c) (hdigits c)
    have hread : Decimal.read? (signText negative ++ (['0'] ++ '.' ::
        (List.replicate (place.natAbs - 1) '0' ++ digits ++ []))) = _ :=
      Decimal.read?_of_point (List.cons_ne_nil '0' []) (hzero 1) hfraction hend
    have hvalue : digitsValue 0 (['0'] ++ (List.replicate (place.natAbs - 1) '0' ++ digits)) =
        digitsValue 0 digits := by
      rw [← List.append_assoc]
      exact digitsValue_zeros_append digits (place.natAbs - 1 + 1)
    rw [List.append_nil, hvalue] at hread
    refine hread.trans ?_
    simp only [List.length_append, List.length_replicate, powerOfTen_zero, one_mul]
    congr 2
    push_cast
    omega
  · split
    · -- All digits stand before the point, with zeros after them.
      refine ⟨place.toNat + 1 - digits.length + 1, ?_⟩
      have hwhole : ∀ c ∈ digits ++ List.replicate (place.toNat + 1 - digits.length) '0',
          isDigit c = true := fun c hc =>
        (List.mem_append.1 hc).elim (hdigits c) (hzero _ c)
      have hread : Decimal.read? (signText negative ++
          (digits ++ List.replicate (place.toNat + 1 - digits.length) '0' ++ '.' ::
            (['0'] ++ []))) = _ :=
        Decimal.read?_of_point (List.append_ne_nil_of_left_ne_nil hne _) hwhole (hzero 1) hend
      have hvalue : digitsValue 0 (digits ++
          List.replicate (place.toNat + 1 - digits.length) '0' ++ ['0']) =
            powerOfTen (place.toNat + 1 - digits.length + 1) * digitsValue 0 digits := by
        rw [← digitsValue_append_zeros, List.replicate_succ', List.append_assoc]
      rw [hvalue] at hread
      refine hread.trans ?_
      congr 2
      simp only [List.length_singleton]
      push_cast
      omega
    · -- The point is between the digits.
      refine ⟨0, ?_⟩
      have hread : Decimal.read? (signText negative ++ (digits.take (place.toNat + 1) ++ '.' ::
          (digits.drop (place.toNat + 1) ++ []))) = _ :=
        Decimal.read?_of_point (by simpa using hne)
          (fun c hc => hdigits c (List.mem_of_mem_take hc))
          (fun c hc => hdigits c (List.mem_of_mem_drop hc)) hend
      rw [List.append_nil, List.take_append_drop] at hread
      refine hread.trans ?_
      simp only [List.length_drop, powerOfTen_zero, one_mul]
      congr 2
      push_cast
      omega

/-- Text with an exponent is a literal of the digits, the last of which has its place. -/
theorem read?_scientific (style : DecimalStyle) (negative : Bool) (hne : digits ≠ [])
    (hdigits : ∀ c ∈ digits, isDigit c = true) (place : Int) :
    Decimal.read? (signText negative ++ style.scientific digits place) =
      some ⟨negative, digitsValue 0 digits, place + 1 - digits.length⟩ := by
  have hexponent : Decimal.readExponent? ('e' :: ((if place < 0 then ['-']
      else if style.plusSign then ['+'] else []) ++ digitsOf place.natAbs)) = some place := by
    rw [Decimal.readExponent?, if_pos (Or.inl rfl), readInteger?_signed]
  match digits, hne, hdigits with
  | [c], hne, hdigits =>
    refine (Decimal.read?_of_whole hne hdigits hexponent).trans ?_
    simp
  | c :: d :: rest, hne, hdigits =>
    have hc : ∀ d ∈ [c], isDigit d = true := fun d hd =>
      hdigits d (List.mem_singleton.1 hd ▸ List.mem_cons_self)
    refine (Decimal.read?_of_point (List.cons_ne_nil c []) hc
      (fun e he => hdigits e (List.mem_cons_of_mem c he)) hexponent).trans ?_
    simp only [List.singleton_append, List.length_cons]
    congr 2
    push_cast
    omega

/-- The text of a decimal is a literal of its digits without some zeros, or with some more. -/
theorem exists_read?_text_shifted (style : DecimalStyle) {d : Decimal} (h : d.digits ≠ 0) :
    ∃ (kept dropped added : Nat), d.digits = powerOfTen dropped * kept ∧
      Decimal.read? (style.text d) =
        some ⟨d.negative, powerOfTen added * kept, d.exponent + dropped - added⟩ := by
  let digits := dropTrailingZeros (digitsOf d.digits)
  let place := d.exponent + ((digitsOf d.digits).length - 1 : Nat)
  obtain ⟨dropped, hall⟩ := exists_dropTrailingZeros (digitsOf d.digits)
  have hne : digits ≠ [] := dropTrailingZeros_ne_nil (digitsOf_ne_nil d.digits)
  have hdigits : ∀ c ∈ digits, isDigit c = true := fun c hc =>
    isDigit_of_mem_digitsOf (hall ▸ List.mem_append_left _ hc)
  have hvalue : d.digits = powerOfTen dropped * digitsValue 0 digits := by
    rw [← digitsValue_append_zeros, ← hall, digitsValue_digitsOf]
  have hplace : place + 1 - digits.length = d.exponent + dropped := by
    have hlength : (digitsOf d.digits).length = digits.length + dropped := by
      rw [hall, List.length_append, List.length_replicate]
    have hpos := List.length_pos_iff.2 hne
    omega
  have htext : style.text d = signText d.negative ++
      (if style.leastPositional ≤ place ∧ place ≤ style.greatestPositional then
        positional digits place else style.scientific digits place) := if_neg h
  rw [htext]
  split
  · obtain ⟨added, hread⟩ := read?_positional d.negative hne hdigits place
    exact ⟨_, dropped, added, hvalue, hplace ▸ hread⟩
  · have hread := read?_scientific style d.negative hne hdigits place
    refine ⟨_, dropped, 0, hvalue, hread.trans ?_⟩
    simp [hplace]

/-- The text of a decimal is a literal of its value. -/
theorem exists_read?_text (style : DecimalStyle) {d : Decimal} (h : d.digits ≠ 0) :
    ∃ d', Decimal.read? (style.text d) = some d' ∧ d'.negative = d.negative ∧
      d'.value = d.value := by
  obtain ⟨kept, dropped, added, hdigits, hread⟩ := exists_read?_text_shifted style h
  refine ⟨_, hread, rfl, ?_⟩
  have hten : (10 : ℚ) ≠ 0 := by norm_num
  simp only [Decimal.value, hdigits, Nat.cast_mul, cast_powerOfTen]
  rw [zpow_sub₀ hten, zpow_add₀ hten]
  field_simp

end DecimalStyle
end Number
end PanelForms

import PanelForms.Proofs.Number.Literal

/-!
# Numeric literals

The readers of decimal text scan it from left to right.  This module writes down what a numeric
literal is made of, apart from how it is scanned, and shows that the readers accept exactly the
literals and give each the number that its parts denote.

Main results:

- Definitions `IntegerLiteral` and `FloatLiteral`: literals taken apart, with their text and value.
- Theorem `readInteger?_eq_some_iff`: the integer reader reads exactly the integer literals.
- Theorem `Decimal.read?_eq_some_iff`: the decimal reader reads exactly the floating literals.
- Theorem `FloatLiteral.value_toDecimal`: the decimal that is read has the value of the literal.
-/

namespace PanelForms
namespace Number

/-! ## Parts of a literal -/

/-- A sign, or none. -/
inductive Sign where
  | unsigned
  | plus
  | minus
  deriving DecidableEq

namespace Sign

/-- How a sign is written. -/
def text : Sign → List Char
  | .unsigned => []
  | .plus => ['+']
  | .minus => ['-']

/-- Whether the sign is a minus. -/
def isNegative : Sign → Bool
  | .minus => true
  | _ => false

end Sign

/-- ASCII digits, of which there is at least one. -/
structure DigitRun where
  chars : List Char
  nonempty : chars ≠ []
  isDigit : ∀ c ∈ chars, isDigit c = true

/-- The number that digits denote. -/
def DigitRun.value (run : DigitRun) : Nat :=
  Nat.ofDigitChars 10 run.chars 0

/-- An integer literal: a sign or none, and digits. -/
structure IntegerLiteral where
  sign : Sign
  digits : DigitRun

namespace IntegerLiteral

/-- How an integer literal is written. -/
def text (l : IntegerLiteral) : List Char :=
  l.sign.text ++ l.digits.chars

/-- The integer that a literal denotes. -/
def value (l : IntegerLiteral) : Int :=
  if l.sign.isNegative then -(l.digits.value : Int) else l.digits.value

end IntegerLiteral

/-- The digits of a floating literal: at least one, then perhaps a point and further digits; or a
point and at least one digit. -/
inductive Mantissa where
  | whole (digits : DigitRun)
  | pointed (digits : DigitRun) (further : List Char) (h : ∀ c ∈ further, isDigit c = true)
  | fraction (digits : DigitRun)

namespace Mantissa

/-- How the digits are written. -/
def text : Mantissa → List Char
  | .whole digits => digits.chars
  | .pointed digits further _ => digits.chars ++ '.' :: further
  | .fraction digits => '.' :: digits.chars

/-- The digits before the point. -/
def wholeDigits : Mantissa → List Char
  | .whole digits | .pointed digits _ _ => digits.chars
  | .fraction _ => []

/-- The digits after the point. -/
def fractionDigits : Mantissa → List Char
  | .whole _ => []
  | .pointed _ further _ => further
  | .fraction digits => digits.chars

/-- The number that the digits denote. -/
def value (m : Mantissa) : ℚ :=
  Nat.ofDigitChars 10 m.wholeDigits 0 +
    Nat.ofDigitChars 10 m.fractionDigits 0 / 10 ^ m.fractionDigits.length

end Mantissa

/-- An exponent: its letter, and the power of ten. -/
structure ExponentPart where
  mark : Char
  isMark : mark = 'e' ∨ mark = 'E'
  power : IntegerLiteral

/-- How an exponent is written, if there is one. -/
def exponentText : Option ExponentPart → List Char
  | none => []
  | some part => part.mark :: part.power.text

/-- The power of ten of an exponent. -/
def exponentValue : Option ExponentPart → Int
  | none => 0
  | some part => part.power.value

/-- A floating literal: a sign or none, digits, and perhaps an exponent. -/
structure FloatLiteral where
  sign : Sign
  mantissa : Mantissa
  exponent : Option ExponentPart

namespace FloatLiteral

/-- How a floating literal is written. -/
def text (l : FloatLiteral) : List Char :=
  l.sign.text ++ (l.mantissa.text ++ exponentText l.exponent)

/-- The magnitude of the number that a literal denotes. -/
def magnitude (l : FloatLiteral) : ℚ :=
  l.mantissa.value * 10 ^ exponentValue l.exponent

/-- The decimal of a literal: all its digits, and the place of the last one. -/
def toDecimal (l : FloatLiteral) : Decimal where
  negative := l.sign.isNegative
  digits := digitsValue 0 (l.mantissa.wholeDigits ++ l.mantissa.fractionDigits)
  exponent := exponentValue l.exponent - l.mantissa.fractionDigits.length

/-- The decimal of a literal has its value. -/
theorem value_toDecimal (l : FloatLiteral) : l.toDecimal.value = l.magnitude := by
  have hten : (10 : ℚ) ≠ 0 := by norm_num
  have hdigits : ((digitsValue 0 (l.mantissa.wholeDigits ++ l.mantissa.fractionDigits) : ℕ) : ℚ) =
      l.mantissa.value * 10 ^ l.mantissa.fractionDigits.length := by
    rw [digitsValue_eq, Nat.ofDigitChars_append, Nat.ofDigitChars_eq_ofDigitChars_zero,
      Mantissa.value]
    push_cast
    field_simp
  rw [Decimal.value, toDecimal, hdigits, magnitude, zpow_sub₀ hten, zpow_natCast]
  field_simp

end FloatLiteral

/-! ## Signs -/

/-- The text does not begin with a sign. -/
def NoSignAhead (cs : List Char) : Prop :=
  ∀ c rest, cs = c :: rest → c ≠ '+' ∧ c ≠ '-'

/-- A sign is split from what follows it, unless that starts with a sign itself. -/
theorem splitSign_text (sign : Sign) {cs : List Char} (h : NoSignAhead cs) :
    splitSign (sign.text ++ cs) = (sign.isNegative, cs) := by
  cases sign with
  | plus => rfl
  | minus => rfl
  | unsigned =>
    change splitSign cs = (false, cs)
    unfold splitSign
    split
    · exact absurd rfl (h _ _ rfl).1
    · exact absurd rfl (h _ _ rfl).2
    · rfl

/-- What is split off the front of a text is a sign, or nothing. -/
theorem exists_sign (cs : List Char) :
    ∃ sign : Sign, cs = sign.text ++ (splitSign cs).2 := by
  unfold splitSign
  split
  · exact ⟨.plus, rfl⟩
  · exact ⟨.minus, rfl⟩
  · exact ⟨.unsigned, rfl⟩

/-- A digit is no sign. -/
theorem noSignAhead_of_isDigit {c : Char} (h : isDigit c = true) (cs : List Char) :
    NoSignAhead (c :: cs) := by
  intro d rest heq
  cases heq
  constructor
  · rintro rfl
    exact absurd h (by decide)
  · rintro rfl
    exact absurd h (by decide)

/-- A run of digits does not start with a sign. -/
theorem DigitRun.noSignAhead (run : DigitRun) (cs : List Char) :
    NoSignAhead (run.chars ++ cs) := by
  obtain ⟨chars, hne, hdigit⟩ := run
  cases chars with
  | nil => exact absurd rfl hne
  | cons c rest => exact noSignAhead_of_isDigit (hdigit c List.mem_cons_self) _

/-! ## Integer literals -/

/-- An integer literal is read as its value. -/
theorem readInteger?_text (l : IntegerLiteral) : readInteger? l.text = some l.value := by
  have hahead : NoSignAhead l.digits.chars := by
    simpa using l.digits.noSignAhead []
  exact readInteger?_of_digits (splitSign_text l.sign hahead) l.digits.nonempty l.digits.isDigit

/-- The integer reader reads exactly the integer literals. -/
theorem readInteger?_eq_some_iff {cs : List Char} {n : Int} :
    readInteger? cs = some n ↔ ∃ l : IntegerLiteral, l.text = cs ∧ l.value = n := by
  constructor
  · intro h
    obtain ⟨sign, hcs⟩ := exists_sign cs
    have hbody : (splitSign cs).2 ≠ [] ∧ ∀ c ∈ (splitSign cs).2, isDigit c = true := by
      by_contra hbad
      have hnone : readInteger? cs = none := by
        simp only [readInteger?]
        refine if_pos ?_
        rw [not_and_or, not_not] at hbad
        simpa [List.isEmpty_iff] using hbad
      rw [hnone] at h
      cases h
    let l : IntegerLiteral := ⟨sign, (splitSign cs).2, hbody.1, hbody.2⟩
    have htext : l.text = cs := hcs.symm
    refine ⟨l, htext, ?_⟩
    rw [← htext, readInteger?_text] at h
    exact Option.some.inj h
  · rintro ⟨l, rfl, rfl⟩
    exact readInteger?_text l

/-! ## Floating literals -/

namespace Decimal

/-- An exponent is read exactly if it is written as one, or if there is none. -/
theorem readExponent?_eq_some_iff {cs : List Char} {e : Int} :
    readExponent? cs = some e ↔ ∃ part, exponentText part = cs ∧ exponentValue part = e := by
  constructor
  · intro h
    cases cs with
    | nil =>
      cases h
      exact ⟨none, rfl, rfl⟩
    | cons mark rest =>
      rw [readExponent?] at h
      split at h
      next hmark =>
        obtain ⟨power, rfl, rfl⟩ := readInteger?_eq_some_iff.1 h
        exact ⟨some ⟨mark, hmark, power⟩, rfl, rfl⟩
      next => cases h
  · rintro ⟨part, rfl, rfl⟩
    cases part with
    | none => rfl
    | some part =>
      rw [exponentText, readExponent?, if_pos part.isMark, readInteger?_text]
      rfl

/-- The text of a mantissa begins with a digit or a point. -/
theorem noSignAhead_mantissa (m : Mantissa) (cs : List Char) : NoSignAhead (m.text ++ cs) := by
  cases m with
  | whole digits => exact digits.noSignAhead cs
  | pointed digits further h =>
    rw [Mantissa.text, List.append_assoc]
    exact digits.noSignAhead _
  | fraction digits =>
    intro c rest heq
    cases heq
    decide

/-- A number literal is read as the decimal that it stands for. -/
theorem read?_text (l : FloatLiteral) : read? l.text = some l.toDecimal := by
  obtain ⟨sign, mantissa, exponent⟩ := l
  have hsplit := splitSign_text sign (noSignAhead_mantissa mantissa (exponentText exponent))
  have hexponent : readExponent? (exponentText exponent) = some (exponentValue exponent) :=
    readExponent?_eq_some_iff.2 ⟨exponent, rfl, rfl⟩
  obtain ⟨hahead, hpoint⟩ := ahead_of_readExponent? hexponent
  cases mantissa with
  | whole digits =>
    have hspan := spanDigits_append digits.isDigit hahead
    have hne : digits.chars.isEmpty = false := List.isEmpty_eq_false_iff.2 digits.nonempty
    simp only [FloatLiteral.text, read?, hsplit]
    simp only [Mantissa.text, hspan, hne, hexponent, Bool.false_and, Bool.false_eq_true, if_false,
      Option.map_some]
    rfl
  | pointed digits further h =>
    have hdot : NoDigitAhead ('.' :: (further ++ exponentText exponent)) := by
      intro c rest heq
      cases heq
      rfl
    have hspan := spanDigits_append digits.isDigit hdot
    have hspan' := spanDigits_append h hahead
    have hne : digits.chars.isEmpty = false := List.isEmpty_eq_false_iff.2 digits.nonempty
    simp only [FloatLiteral.text, read?, hsplit]
    simp only [Mantissa.text, List.append_assoc, List.cons_append, hspan, hspan', hne, hexponent,
      Bool.false_and, Bool.false_eq_true, if_false, Option.map_some]
    rfl
  | fraction digits =>
    have hspan := spanDigits_append digits.isDigit hahead
    have hne : digits.chars.isEmpty = false := List.isEmpty_eq_false_iff.2 digits.nonempty
    have hdot : spanDigits ('.' :: (digits.chars ++ exponentText exponent)) =
        ([], '.' :: (digits.chars ++ exponentText exponent)) := rfl
    simp only [FloatLiteral.text, read?, hsplit]
    simp only [Mantissa.text, List.cons_append, hdot, hspan, hne, hexponent,
      Bool.and_false, Bool.false_eq_true, if_false, Option.map_some]
    rfl

/-- What a scan for digits leaves is the text without them. -/
theorem spanDigits_spec (cs : List Char) :
    cs = (spanDigits cs).1 ++ (spanDigits cs).2 ∧ ∀ c ∈ (spanDigits cs).1, isDigit c = true :=
  ⟨List.takeWhile_append_dropWhile.symm, fun _ hc => List.mem_takeWhile_imp hc⟩

/-- Text that is read after its sign is a mantissa and an exponent. -/
theorem exists_mantissa {cs : List Char} {d : Decimal} (h : read? cs = some d) :
    ∃ (m : Mantissa) (part : Option ExponentPart),
      (splitSign cs).2 = m.text ++ exponentText part := by
  unfold read? at h
  obtain ⟨hbody, hwhole⟩ := spanDigits_spec (splitSign cs).2
  dsimp only at h
  split at h
  next tail htail =>
    obtain ⟨htail', hfraction⟩ := spanDigits_spec tail
    split at h
    · cases h
    next hsome =>
      obtain ⟨e, hexponent, -⟩ := Option.map_eq_some_iff.1 h
      obtain ⟨part, hpart, -⟩ := readExponent?_eq_some_iff.1 hexponent
      rw [htail, htail', ← hpart] at hbody
      by_cases hempty : (spanDigits (splitSign cs).2).1 = []
      · have hne : (spanDigits tail).1 ≠ [] := by
          intro hnil
          simp [hempty, hnil] at hsome
        refine ⟨.fraction ⟨_, hne, hfraction⟩, part, ?_⟩
        rw [hempty] at hbody
        exact hbody
      · refine ⟨.pointed ⟨_, hempty, hwhole⟩ _ hfraction, part, ?_⟩
        rw [Mantissa.text, List.append_assoc]
        exact hbody
  next =>
    split at h
    · cases h
    next hsome =>
      obtain ⟨e, hexponent, -⟩ := Option.map_eq_some_iff.1 h
      obtain ⟨part, hpart, -⟩ := readExponent?_eq_some_iff.1 hexponent
      rw [← hpart] at hbody
      have hne : (spanDigits (splitSign cs).2).1 ≠ [] := by
        intro hnil
        simp [hnil] at hsome
      exact ⟨.whole ⟨_, hne, hwhole⟩, part, hbody⟩

/-- The decimal reader reads exactly the floating literals. -/
theorem read?_eq_some_iff {cs : List Char} {d : Decimal} :
    read? cs = some d ↔ ∃ l : FloatLiteral, l.text = cs ∧ l.toDecimal = d := by
  constructor
  · intro h
    obtain ⟨sign, hcs⟩ := exists_sign cs
    obtain ⟨m, part, hbody⟩ := exists_mantissa h
    let l : FloatLiteral := ⟨sign, m, part⟩
    have htext : l.text = cs := by
      rw [hcs, hbody]
      rfl
    refine ⟨l, htext, ?_⟩
    rw [← htext, read?_text] at h
    exact Option.some.inj h
  · rintro ⟨l, rfl, rfl⟩
    exact read?_text l

end Decimal
end Number
end PanelForms

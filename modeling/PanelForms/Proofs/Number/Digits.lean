import Mathlib.Data.List.TakeWhile
import PanelForms.Number.Shortest

/-!
# Digits and integer text

A natural number is written as its decimal digits and read back digit by digit.  Zeros at the end
of the digits only count as places, so a writer may drop them if it remembers how many they were.

Main results:

- Theorem `Number.digitsValue_digitsOf`: the digits of a number denote it.
- Theorem `Number.exists_dropTrailingZeros`: what dropping zeros at the end takes away.
- Theorem `Number.readInteger?_integerText`: the text of an integer denotes it.
-/

namespace PanelForms
namespace Number

/-! ## Digits -/

/-- Digits are those of the library. -/
theorem isDigit_eq (c : Char) : isDigit c = c.isDigit := by
  rfl

/-- Numbers are written with digits only. -/
theorem isDigit_of_mem_digitsOf {n : Nat} {c : Char} (h : c ∈ digitsOf n) : isDigit c = true := by
  rw [isDigit_eq]
  exact Nat.isDigit_of_mem_toDigits (by decide) (by decide) h

theorem digitsOf_ne_nil (n : Nat) : digitsOf n ≠ [] :=
  Nat.toDigits_ne_nil

/-- Digits are read as the library reads them. -/
theorem digitsValue_eq (acc : Nat) (cs : List Char) :
    digitsValue acc cs = Nat.ofDigitChars 10 cs acc :=
  rfl

/-- The digits of a number denote it. -/
@[simp]
theorem digitsValue_digitsOf (n : Nat) : digitsValue 0 (digitsOf n) = n := by
  rw [digitsValue_eq, digitsOf, Nat.ofDigitChars_ten_toDigits]

theorem digitsValue_append (acc : Nat) (cs ds : List Char) :
    digitsValue acc (cs ++ ds) = digitsValue (digitsValue acc cs) ds :=
  List.foldl_append

/-- Zeros at the end count as places. -/
theorem digitsValue_append_zeros (acc : Nat) (cs : List Char) (k : Nat) :
    digitsValue acc (cs ++ List.replicate k '0') = powerOfTen k * digitsValue acc cs := by
  rw [digitsValue_append, digitsValue_eq, Nat.ofDigitChars_replicate_zero]
  rfl

/-- Zeros at the front count for nothing. -/
theorem digitsValue_zeros_append (cs : List Char) (k : Nat) :
    digitsValue 0 (List.replicate k '0' ++ cs) = digitsValue 0 cs := by
  rw [digitsValue_append, digitsValue_eq 0, Nat.ofDigitChars_replicate_zero, Nat.mul_zero]

/-- Dropping the zeros at the end takes away zeros only. -/
theorem exists_dropTrailingZeros (cs : List Char) :
    ∃ k, cs = dropTrailingZeros cs ++ List.replicate k '0' := by
  cases cs with
  | nil => exact ⟨0, rfl⟩
  | cons c rest =>
    let zeros := rest.reverse.takeWhile (· = '0')
    have hzeros : zeros = List.replicate zeros.length '0' :=
      List.eq_replicate_of_mem fun d hd => by simpa using List.mem_takeWhile_imp hd
    have hrest : rest = (rest.reverse.dropWhile (· = '0')).reverse ++ zeros.reverse := by
      rw [← List.reverse_append, List.takeWhile_append_dropWhile, List.reverse_reverse]
    refine ⟨zeros.length, ?_⟩
    rw [dropTrailingZeros, List.cons_append, ← List.reverse_replicate, ← hzeros, ← hrest]

/-- The first digit stays when trailing zeros are dropped. -/
theorem dropTrailingZeros_ne_nil {cs : List Char} (h : cs ≠ []) : dropTrailingZeros cs ≠ [] := by
  cases cs with
  | nil => exact (h rfl).elim
  | cons c rest => exact List.cons_ne_nil _ _

/-! ## Integers -/

/-- A text that does not begin with a sign is read without one. -/
theorem splitSign_of_isDigit {c : Char} (h : isDigit c = true) (cs : List Char) :
    splitSign (c :: cs) = (false, c :: cs) := by
  unfold splitSign
  split
  · next heq =>
    cases heq
    exact absurd h (by decide)
  · next heq =>
    cases heq
    exact absurd h (by decide)
  · rfl

/-- Digits in front are no sign. -/
theorem splitSign_of_digits {cs : List Char} (hne : cs ≠ [])
    (hdigits : ∀ c ∈ cs, isDigit c = true) (rest : List Char) :
    splitSign (cs ++ rest) = (false, cs ++ rest) := by
  obtain ⟨c, tail, rfl⟩ := List.exists_cons_of_ne_nil hne
  exact splitSign_of_isDigit (hdigits c List.mem_cons_self) _

/-- Digits behind a sign are read as an integer. -/
theorem readInteger?_of_digits {cs body : List Char} {negative : Bool}
    (hsplit : splitSign cs = (negative, body)) (hne : body ≠ [])
    (hdigits : ∀ c ∈ body, isDigit c = true) :
    readInteger? cs =
      some (if negative then -(digitsValue 0 body : Int) else digitsValue 0 body) := by
  have hall : body.all isDigit = true := List.all_eq_true.2 hdigits
  simp [readInteger?, hsplit, hne, hall]

/-- The digits of an integer denote it after its sign, whether a plus sign is written or not. -/
theorem readInteger?_signed (plusSign : Bool) (n : Int) :
    readInteger? ((if n < 0 then ['-'] else if plusSign then ['+'] else []) ++
      digitsOf n.natAbs) = some n := by
  have hdigits : ∀ c ∈ digitsOf n.natAbs, isDigit c = true := fun c hc =>
    isDigit_of_mem_digitsOf hc
  have hne := digitsOf_ne_nil n.natAbs
  split
  · have hsplit : splitSign (['-'] ++ digitsOf n.natAbs) = (true, digitsOf n.natAbs) := rfl
    rw [readInteger?_of_digits hsplit hne hdigits, digitsValue_digitsOf, if_pos rfl]
    congr 1
    omega
  · have hsplit : splitSign ((if plusSign then ['+'] else []) ++ digitsOf n.natAbs) =
        (false, digitsOf n.natAbs) := by
      cases plusSign with
      | true => rfl
      | false => simpa using splitSign_of_digits hne hdigits []
    rw [readInteger?_of_digits hsplit hne hdigits, digitsValue_digitsOf, if_neg Bool.false_ne_true]
    congr 1
    omega

/-- The text of an integer denotes it. -/
theorem readInteger?_integerText (n : Int) : readInteger? (integerText n).toList = some n := by
  rw [← readInteger?_signed false n, integerText]
  split <;> rw [String.toList_ofList] <;> rfl

end Number
end PanelForms

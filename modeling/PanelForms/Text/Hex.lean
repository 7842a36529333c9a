/-!
# Hexadecimal digits

Escapes, encoded paths and dumps of bytes write numbers below sixteen as hexadecimal digits.

Main definitions:

- `Hex.lowerDigit`, `Hex.upperDigit`: the digit of a number below sixteen.
- `Hex.value?`: the number of a digit of either case.
- `Hex.ofBytes`, `Hex.toBytes?`: two digits for every byte, and the bytes that digits stand for.
-/

namespace PanelForms
namespace Hex

/-- The lower-case digit of a number below sixteen. -/
def lowerDigit (n : Nat) : Char :=
  if n < 10 then Char.ofNat (48 + n) else Char.ofNat (87 + n)

/-- The upper-case digit of a number below sixteen. -/
def upperDigit (n : Nat) : Char :=
  if n < 10 then Char.ofNat (48 + n) else Char.ofNat (55 + n)

/-- The number of a digit of either case. -/
def value? (c : Char) : Option Nat :=
  if '0' ≤ c ∧ c ≤ '9' then some (c.toNat - 48)
  else if 'a' ≤ c ∧ c ≤ 'f' then some (c.toNat - 87)
  else if 'A' ≤ c ∧ c ≤ 'F' then some (c.toNat - 55)
  else none

/-- Two lower-case digits for every byte. -/
def ofBytes (bytes : List UInt8) : List Char :=
  bytes.flatMap fun b => [lowerDigit (b.toNat / 16), lowerDigit (b.toNat % 16)]

/-- The bytes that pairs of digits stand for. -/
def toBytes? : List Char → Option (List UInt8)
  | [] => some []
  | high :: low :: rest => do
    let high ← value? high
    let low ← value? low
    let others ← toBytes? rest
    return UInt8.ofNat (high * 16 + low) :: others
  | [_] => none

/-- A lower-case digit stands for its number. -/
@[simp]
theorem value?_lowerDigit {n : Nat} (h : n < 16) : value? (lowerDigit n) = some n := by
  have key : ∀ k : Fin 16, value? (lowerDigit k) = some k.val := by decide
  exact key ⟨n, h⟩

/-- An upper-case digit stands for its number. -/
@[simp]
theorem value?_upperDigit {n : Nat} (h : n < 16) : value? (upperDigit n) = some n := by
  have key : ∀ k : Fin 16, value? (upperDigit k) = some k.val := by decide
  exact key ⟨n, h⟩

/-- A byte is made of its two digits. -/
theorem byte_of_digits (b : UInt8) : UInt8.ofNat (b.toNat / 16 * 16 + b.toNat % 16) = b := by
  rw [Nat.div_add_mod' b.toNat 16]
  exact UInt8.ofNat_toNat

end Hex
end PanelForms

/-!
# Powers of two and of ten

Binary numbers are scaled by powers of two and decimal texts by powers of ten.

Main definitions:

- `powerOfTwo`, `powerOfTen`: the powers as natural numbers.
- `powerOfTwo_succ`, `powerOfTen_succ`: each is the one before it times its base.
-/

namespace PanelForms
namespace Number

/-- A power of two. -/
def powerOfTwo (exponent : Nat) : Nat :=
  Nat.pow 2 exponent

/-- A power of ten. -/
def powerOfTen (exponent : Nat) : Nat :=
  Nat.pow 10 exponent

@[simp]
theorem powerOfTwo_zero : powerOfTwo 0 = 1 :=
  rfl

@[simp]
theorem powerOfTen_zero : powerOfTen 0 = 1 :=
  rfl

theorem powerOfTwo_succ (exponent : Nat) : powerOfTwo (exponent + 1) = powerOfTwo exponent * 2 :=
  rfl

theorem powerOfTen_succ (exponent : Nat) : powerOfTen (exponent + 1) = powerOfTen exponent * 10 :=
  rfl

theorem powerOfTwo_pos (exponent : Nat) : 0 < powerOfTwo exponent := by
  induction exponent with
  | zero => exact Nat.one_pos
  | succ k ih =>
    rw [powerOfTwo_succ]
    omega

theorem powerOfTen_pos (exponent : Nat) : 0 < powerOfTen exponent := by
  induction exponent with
  | zero => exact Nat.one_pos
  | succ k ih =>
    rw [powerOfTen_succ]
    omega

end Number
end PanelForms

/-!
# Hexadecimal digits

The sixteen digits and their values. They are written in lower case and read in either; reading a
written digit gives its value back (`hexValue?_hexDigit`).
-/

set_option autoImplicit false

namespace Targeting.Text

/-- The digit of a value below sixteen, in lower case. -/
def hexDigit (n : Nat) : Char :=
  if n < 10 then Char.ofNat (48 + n) else Char.ofNat (87 + n)

/-- The value of a hexadecimal digit. -/
def hexValue? (c : Char) : Option Nat :=
  if '0' ≤ c ∧ c ≤ '9' then some (c.toNat - 48)
  else if 'a' ≤ c ∧ c ≤ 'f' then some (c.toNat - 87)
  else if 'A' ≤ c ∧ c ≤ 'F' then some (c.toNat - 55)
  else none

theorem hexValue?_hexDigit (n : Nat) (small : n < 16) : hexValue? (hexDigit n) = some n := by
  have each : ∀ k : Fin 16, hexValue? (hexDigit k) = some k.val := by decide
  exact each ⟨n, small⟩

end Targeting.Text

import Targeting.Binary64.Rounding

/-!
# Arithmetic on numbers of 64 bits

Products and quotients of finite numbers are rounded once, to the number nearest to the exact result.
To scale by a power of ten is not to round once: the number and the power are rounded before they are
multiplied or divided, so what comes out may lie beside the number nearest to the exact value.
-/

set_option autoImplicit false

namespace Targeting.Binary64

/-- The number with the other sign. -/
def neg (x : Binary64) : Binary64 :=
  withSign (!x.isNegative) (x.bits.toNat % Nat.pow 2 63)

/-- The number nearest to the product of two finite numbers. -/
def mul (x y : Binary64) : Binary64 :=
  withSign (x.isNegative != y.isNegative)
    (nearestPattern (x.magnitude * y.magnitude) (Nat.pow 2 1074))

/-- The number nearest to the quotient of two finite numbers, the second of which is not zero. -/
def div (x y : Binary64) : Binary64 :=
  withSign (x.isNegative != y.isNegative)
    (nearestPattern (x.magnitude * Nat.pow 2 1074) y.magnitude)

/-- The number nearest to a power of ten. -/
def powerOfTen (n : Nat) : Binary64 :=
  withSign false (decimalPattern 1 n)

/-- The largest power of ten that is below the largest number. -/
def topPower : Nat := 308

/-- Divides by the largest power of ten several times, as long as something is left. -/
def divTop : Nat → Binary64 → Binary64
  | 0, x => x
  | n + 1, x => if x.magnitude = 0 then x else divTop n (x.div (powerOfTen topPower))

/-- Divides by a power of ten: if it is beyond the largest one, by that first, and by what remains
of the power last. -/
def divPowerOfTen (x : Binary64) (n : Nat) : Binary64 :=
  let times := (n - 1) / topPower
  (divTop times x).div (powerOfTen (n - times * topPower))

/-- Multiplies a number that is not negative by a power of ten. -/
def scale (x : Binary64) (exponent : Int) : Binary64 :=
  if exponent < 0 then x.divPowerOfTen (-exponent).toNat
  else if topPower < exponent then if x.magnitude = 0 then x else infinity false
  else x.mul (powerOfTen exponent.toNat)

end Targeting.Binary64

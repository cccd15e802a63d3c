import Targeting.Binary64.Basic

/-!
# Rounding to the nearest number of 64 bits

`nearestPattern` rounds an exact quotient of units to the nearest representable magnitude, ties to
the even significand, and gives infinity from half a unit above the largest number on. Integers and
decimals are rounded through it, once and exactly: no intermediate result is inexact.

The pattern of a magnitude is the rounded significand plus `2⁵²` times the shift that brought the
value below `2⁵³` units; a significand that rounds up to `2⁵³` carries into the exponent field by
the same sum.
-/

set_option autoImplicit false

namespace Targeting

/-- The whole number nearest to `num / den`, the even one of two equally near. -/
def roundEven (num den : Nat) : Nat :=
  let quotient := num / den
  let twice := 2 * (num % den)
  if twice > den then quotient + 1
  else if twice = den then quotient + quotient % 2
  else quotient

/-- How many decimal digits a number has; zero has one. -/
def digitCount (n : Nat) : Nat :=
  (Nat.toDigits 10 n).length

namespace Binary64

/-- The pattern of the magnitude nearest to `num / den` units. -/
def nearestPattern (num den : Nat) : Nat :=
  let shift := (num / den).log2 - 52
  min (roundEven num (den * Nat.pow 2 shift) + shift * Nat.pow 2 52) infinityBits

/-- The number nearest to an integer. -/
def ofInt (n : Int) : Binary64 :=
  withSign (decide (n < 0)) (nearestPattern (n.natAbs * Nat.pow 2 1074) 1)

/-- The magnitude nearest to `coefficient * 10 ^ exponent`. Exponents far outside the range of
the format are decided by the number of digits alone. -/
def decimalPattern (coefficient : Nat) (exponent : Int) : Nat :=
  let top := digitCount coefficient + exponent
  if coefficient = 0 ∨ top < -400 then 0
  else if 400 < top then infinityBits
  else if 0 ≤ exponent then
    nearestPattern (coefficient * Nat.pow 10 exponent.toNat * Nat.pow 2 1074) 1
  else nearestPattern (coefficient * Nat.pow 2 1074) (Nat.pow 10 (-exponent).toNat)

end Binary64

end Targeting

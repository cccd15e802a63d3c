/-!
# Numbers of 64 bits

A binary floating-point number is its bit pattern: sign, biased exponent, fraction. Every finite
number is a whole multiple of `2⁻¹⁰⁷⁴`, so its exact value is an integer count of that unit
(`units`), and comparing two numbers is comparing two integers. Patterns that differ are different
numbers here, also two zeros or two NaNs; `order?` is the comparison by value.
-/

set_option autoImplicit false

namespace Targeting

/-- A number of the binary interchange format of 64 bits, as its bit pattern. -/
structure Binary64 where
  bits : UInt64
deriving Repr, Inhabited

namespace Binary64

theorem eq_iff_bits (x y : Binary64) : x = y ↔ x.bits = y.bits := by
  cases x
  cases y
  rw [mk.injEq]

/-- Numbers are equal when their bits agree. -/
instance : DecidableEq Binary64 := fun x y => decidable_of_iff _ (eq_iff_bits x y).symm

/-- The sign bit. -/
def isNegative (x : Binary64) : Bool :=
  decide (Nat.pow 2 63 ≤ x.bits.toNat)

/-- The exponent field. -/
def biased (x : Binary64) : Nat :=
  x.bits.toNat / Nat.pow 2 52 % Nat.pow 2 11

/-- The fraction field. -/
def fraction (x : Binary64) : Nat :=
  x.bits.toNat % Nat.pow 2 52

/-- Neither an infinity nor a NaN. -/
def isFinite (x : Binary64) : Bool :=
  x.biased != 2047

/-- Not a number: the largest exponent with a fraction. -/
def isNaN (x : Binary64) : Bool :=
  x.biased == 2047 && x.fraction != 0

/-- The significand with its hidden bit, which numbers of the smallest exponent lack. -/
def significand (x : Binary64) : Nat :=
  if x.biased = 0 then x.fraction else x.fraction + Nat.pow 2 52

/-- The exact absolute value of a finite number, as a count of `2⁻¹⁰⁷⁴`. -/
def magnitude (x : Binary64) : Nat :=
  x.significand * Nat.pow 2 (x.biased - 1)

/-- The exact value of a finite number, as a count of `2⁻¹⁰⁷⁴`. -/
def units (x : Binary64) : Int :=
  if x.isNegative then -(x.magnitude : Int) else x.magnitude

/-- The order of two finite numbers by value; other numbers have none. -/
def order? (x y : Binary64) : Option Ordering :=
  if x.isFinite && y.isFinite then some (compare x.units y.units) else none

/-- The largest exponent field with an empty fraction: the pattern of plus infinity. -/
def infinityBits : Nat :=
  2047 * Nat.pow 2 52

/-- The pattern of a magnitude with a sign put before it. -/
def withSign (negative : Bool) (pattern : Nat) : Binary64 :=
  ⟨UInt64.ofNat (if negative then pattern + Nat.pow 2 63 else pattern)⟩

/-- The quiet NaN with an empty payload. -/
def nan : Binary64 :=
  ⟨0x7ff8000000000000⟩

/-- The infinity of a sign. -/
def infinity (negative : Bool) : Binary64 :=
  withSign negative infinityBits

theorem isNaN_eq_false_of_isFinite {x : Binary64} (h : x.isFinite = true) : x.isNaN = false := by
  simp_all [isFinite, isNaN]

end Binary64

end Targeting

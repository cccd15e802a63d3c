import Targeting.Decimal.Shortest
import Targeting.Proofs.Rounding

/-!
# The shortest decimal reads back

Whatever grid the search ends on, the decimal it gives rounds to the number it was made for
(`Decimal.pattern_shortest`): a grid answers only with a decimal that reads back, dropping
zeros does not change a value, and the exact expansion, given where no grid answers, has the value
itself.
-/

set_option autoImplicit false

namespace Targeting.Decimal

open Binary64

/-- The pattern of the magnitude that a decimal rounds to. -/
def pattern (d : Decimal) : Nat :=
  decimalPattern d.coefficient d.exponent

theorem pattern_mk (coefficient : Nat) (exponent : Int) :
    pattern ⟨coefficient, exponent⟩ = decimalPattern coefficient exponent := rfl

theorem pattern_trim (n : Nat) (d : Decimal) : (trim n d).pattern = d.pattern := by
  induction n generalizing d with
  | zero => rfl
  | succ n ih =>
    unfold trim
    split
    · rename_i zeros
      have coefficient : d.coefficient / 10 * 10 ^ 1 = d.coefficient := by omega
      have exponent : d.exponent + 1 - (1 : Nat) = d.exponent := by omega
      have same := decimalPattern_shift (d.coefficient / 10) 1 (d.exponent + 1)
      rw [coefficient, exponent] at same
      rw [ih]
      exact same.symm
    · rfl

/-- A grid answers with one of the two neighbours, and only if that reads back. -/
theorem pattern_of_onGrid? {tie : Tie} {target num den : Nat} {exponent : Int} {d : Decimal}
    (found : onGrid? tie target num den exponent = some d) : d.pattern = target := by
  unfold onGrid? at found
  dsimp only at found
  split at found
  · cases found
  · rename_i down _
    cases found
    exact eq_of_beq down
  · rename_i _ up
    cases found
    exact eq_of_beq up
  · rename_i down up
    have lower := eq_of_beq down
    have upper := eq_of_beq up
    split at found
    · cases found
      exact lower
    · cases found
      exact upper
    · split at found
      · cases found
        exact upper
      · split at found
        · cases found
          exact lower
        · cases found
          exact upper

/-- A bound on the length of an exact expansion: its digits are those of the magnitude times a power
of five. -/
theorem digitCount_mul_pow_five {m e : Nat} (k : Nat) (positive : 0 < m) (below : m < 2 ^ e)
    (fits : e ≤ 6 * k) (some : 0 < k) :
    2 * k < digitCount (m * Nat.pow 5 (3 * k)) ∧ digitCount (m * Nat.pow 5 (3 * k)) ≤ 4 * k := by
  have hundreds : 10 ^ (2 * k) ≤ Nat.pow 5 (3 * k) := by
    calc
      10 ^ (2 * k) = 100 ^ k := by rw [Nat.pow_mul]
      _ ≤ 125 ^ k := Nat.pow_le_pow_left (by decide) k
      _ = 5 ^ (3 * k) := by rw [Nat.pow_mul]
  have thousands : 2 ^ (6 * k) * Nat.pow 5 (3 * k) ≤ 10 ^ (4 * k) := by
    calc
      2 ^ (6 * k) * 5 ^ (3 * k) = 8000 ^ k := by rw [Nat.pow_mul, Nat.pow_mul, ← Nat.mul_pow]
      _ ≤ 10000 ^ k := Nat.pow_le_pow_left (by decide) k
      _ = 10 ^ (4 * k) := by rw [Nat.pow_mul]
  have magnitude : m < 2 ^ (6 * k) :=
    Nat.lt_of_lt_of_le below (Nat.pow_le_pow_right (by decide) fits)
  constructor
  · by_contra short
    have less := (digitCount_le_iff _ (by omega)).1 (Nat.not_lt.1 short)
    have more : Nat.pow 5 (3 * k) ≤ m * Nat.pow 5 (3 * k) := Nat.le_mul_of_pos_left _ positive
    omega
  · rw [digitCount_le_iff _ (by omega)]
    exact Nat.lt_of_lt_of_le (Nat.mul_lt_mul_of_pos_right magnitude (Nat.pow_pos (by decide)))
      thousands

theorem magnitude_lt (x : Binary64) : x.magnitude < 2 ^ (53 + (x.biased - 1)) := by
  have fraction := x.fraction_lt
  have significand : x.significand < 2 ^ 53 := by
    simp only [Binary64.significand, Nat.pow_eq]
    split <;> omega
  rw [Nat.pow_add]
  exact Nat.mul_lt_mul_of_pos_right significand (Nat.pow_pos (by decide))

/-- A number of units is a decimal with as many places as the unit has. -/
theorem decimalPattern_mul_pow_five {m n : Nat} (positive : 0 < m) (places : n = 1074)
    (low : n ≤ digitCount (m * Nat.pow 5 n) + 400)
    (high : digitCount (m * Nat.pow 5 n) ≤ n + 400) :
    decimalPattern (m * Nat.pow 5 n) (-(n : Int)) = nearestPattern m 1 := by
  have positive' : 0 < m * Nat.pow 5 n := Nat.mul_pos positive (Nat.pow_pos (by decide))
  have whole : (-(n : Int)).toNat = 0 := by omega
  have fraction : (-(-(n : Int))).toNat = n := by omega
  have tens : 10 ^ n = 5 ^ n * 2 ^ n := Nat.mul_pow 5 2 n
  rw [decimalPattern_of_range positive' (by omega) (by omega), whole, fraction, ← places]
  apply nearestPattern_congr (Nat.pow_pos (by decide)) Nat.one_pos
  simp only [Nat.pow_eq]
  rw [tens]
  ring

/-- The exact expansion of a magnitude has its value. -/
theorem pattern_exact {x : Binary64} (finite : x.isFinite = true) (positive : 0 < x.magnitude)
    {n : Nat} (places : n = 1074) :
    pattern ⟨x.magnitude * Nat.pow 5 n, -(n : Int)⟩ = x.unsigned := by
  have biased := biased_lt_of_isFinite finite
  have length := digitCount_mul_pow_five 358 positive (magnitude_lt x) (by omega) (by decide)
  rw [show 3 * 358 = n by omega] at length
  obtain ⟨low, high⟩ := length
  rw [pattern_mk, decimalPattern_mul_pow_five positive places (by omega) (by omega),
    nearestPattern_magnitude finite]

/-- **The shortest decimal of a finite number reads back.** -/
theorem pattern_shortest (tie : Tie) {x : Binary64} (finite : x.isFinite = true) :
    (shortest tie x).pattern = x.unsigned := by
  unfold shortest
  dsimp only
  split
  · rename_i zero
    have rounded := nearestPattern_magnitude finite
    rw [zero] at rounded
    rw [← rounded]
    decide
  · rename_i positive
    split
    · rename_i d found
      obtain ⟨exponent, -, answered⟩ := List.exists_of_findSome?_eq_some found
      rw [pattern_trim]
      exact pattern_of_onGrid? answered
    · have exponent : (-1074 : Int) = -((1074 : Nat) : Int) := rfl
      rw [exponent]
      -- The power stays a variable, so that nothing evaluates it.
      generalize places : (1074 : Nat) = n
      exact pattern_exact finite (Nat.pos_of_ne_zero positive) places.symm

end Targeting.Decimal

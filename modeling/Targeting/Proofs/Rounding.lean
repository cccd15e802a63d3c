import Mathlib.Tactic.Ring
import Mathlib.Tactic.NormNum
import Targeting.Binary64.Rounding

/-!
# Rounding goes by the value

The pattern of a quotient depends on the value of the quotient alone
(`Binary64.nearestPattern_congr`), so a decimal may be written with more or fewer zeros
(`Binary64.decimalPattern_shift`). The magnitude of a finite number rounds to the number itself
(`Binary64.nearestPattern_magnitude`): its significand fits, and the shift is the exponent that it is
stored with.
-/

set_option autoImplicit false

namespace Targeting

theorem roundEven_scale (num den : Nat) {k : Nat} (positive : 0 < k) :
    roundEven (k * num) (k * den) = roundEven num den := by
  have quotient : k * num / (k * den) = num / den := Nat.mul_div_mul_left num den positive
  have remainder : k * num % (k * den) = k * (num % den) := Nat.mul_mod_mul_left k num den
  have above : 2 * (k * (num % den)) > k * den ↔ 2 * (num % den) > den := by
    rw [Nat.mul_left_comm]
    exact Nat.mul_lt_mul_left positive
  have middle : 2 * (k * (num % den)) = k * den ↔ 2 * (num % den) = den := by
    rw [Nat.mul_left_comm]
    exact Nat.mul_right_inj (Nat.ne_of_gt positive)
  simp only [roundEven, quotient, remainder, above, middle]

theorem roundEven_mul (n : Nat) {den : Nat} (positive : 0 < den) : roundEven (n * den) den = n := by
  simp [roundEven, positive, Nat.ne_of_lt positive]

theorem roundEven_le (num den : Nat) : roundEven num den ≤ num / den + 1 := by
  simp only [roundEven]
  split
  · exact Nat.le_refl _
  · split <;> omega

namespace Binary64

theorem nearestPattern_scale (num den : Nat) {k : Nat} (positive : 0 < k) :
    nearestPattern (k * num) (k * den) = nearestPattern num den := by
  have quotient : k * num / (k * den) = num / den := Nat.mul_div_mul_left num den positive
  simp only [nearestPattern, quotient, Nat.mul_assoc, roundEven_scale num _ positive]

/-- Equal quotients round alike. -/
theorem nearestPattern_congr {num den num' den' : Nat} (positive : 0 < den) (positive' : 0 < den')
    (equal : num * den' = num' * den) : nearestPattern num den = nearestPattern num' den' := by
  calc
    nearestPattern num den = nearestPattern (den' * num) (den' * den) :=
      (nearestPattern_scale num den positive').symm
    _ = nearestPattern (den * num') (den * den') := by
      rw [Nat.mul_comm den' num, equal, Nat.mul_comm num' den, Nat.mul_comm den' den]
    _ = nearestPattern num' den' := nearestPattern_scale num' den' positive

end Binary64

theorem digitCount_le_iff (n : Nat) {k : Nat} (positive : 0 < k) :
    digitCount n ≤ k ↔ n < 10 ^ k :=
  Nat.length_toDigits_le_iff (by decide) positive

theorem digitCount_pos (n : Nat) : 0 < digitCount n :=
  Nat.length_toDigits_pos

/-- Every zero behind a number makes it one digit longer. -/
theorem digitCount_mul_pow (k : Nat) {n : Nat} (positive : 0 < n) :
    digitCount (n * 10 ^ k) = digitCount n + k := by
  have least := digitCount_pos n
  apply Nat.le_antisymm
  · rw [digitCount_le_iff _ (by omega), Nat.pow_add]
    have below : n < 10 ^ digitCount n := (digitCount_le_iff n least).1 (Nat.le_refl _)
    exact Nat.mul_lt_mul_of_pos_right below (Nat.pow_pos (by decide))
  · by_contra shorter
    -- A number with one digit fewer would be below the power of ten that bounds it from below.
    obtain ⟨m, length⟩ : ∃ m, digitCount n = m + 1 := ⟨digitCount n - 1, by omega⟩
    have fewer : digitCount (n * 10 ^ k) ≤ m + k := by omega
    cases Nat.eq_zero_or_pos (m + k) with
    | inl none =>
      have := digitCount_pos (n * 10 ^ k)
      omega
    | inr some =>
      rw [digitCount_le_iff _ some, Nat.pow_add] at fewer
      have below : n < 10 ^ m := Nat.lt_of_mul_lt_mul_right fewer
      cases Nat.eq_zero_or_pos m with
      | inl zero =>
        rw [zero, Nat.pow_zero] at below
        omega
      | inr more =>
        have := (digitCount_le_iff n more).2 below
        omega

namespace Binary64

/-- Within the range that is decided by rounding, a decimal is a quotient of whole units. -/
theorem decimalPattern_of_range {coefficient : Nat} {exponent : Int} (positive : 0 < coefficient)
    (low : -400 ≤ digitCount coefficient + exponent)
    (high : digitCount coefficient + exponent ≤ 400) :
    decimalPattern coefficient exponent =
      nearestPattern (coefficient * Nat.pow 10 exponent.toNat * Nat.pow 2 1074)
        (Nat.pow 10 (-exponent).toNat) := by
  have nonzero : ¬(coefficient = 0 ∨ digitCount coefficient + exponent < -400) := by omega
  have notHuge : ¬400 < digitCount coefficient + exponent := by omega
  have one : Nat.pow 10 0 = 1 := rfl
  simp only [decimalPattern, if_neg nonzero, if_neg notHuge]
  split
  · rename_i whole
    have zero : (-exponent).toNat = 0 := by omega
    rw [zero, one]
  · rename_i fraction
    have zero : exponent.toNat = 0 := by omega
    rw [zero, one, Nat.mul_one]

/-- **A decimal may be written with more zeros.** -/
theorem decimalPattern_shift (coefficient k : Nat) (exponent : Int) :
    decimalPattern (coefficient * 10 ^ k) (exponent - k) = decimalPattern coefficient exponent := by
  cases Nat.eq_zero_or_pos coefficient with
  | inl zero => simp [decimalPattern, zero]
  | inr positive =>
    have positive' : 0 < coefficient * 10 ^ k := Nat.mul_pos positive (Nat.pow_pos (by decide))
    have top : (digitCount (coefficient * 10 ^ k) : Int) + (exponent - k) =
        digitCount coefficient + exponent := by
      rw [digitCount_mul_pow k positive]
      omega
    by_cases low : digitCount coefficient + exponent < -400
    · simp only [decimalPattern, top, low, or_true, if_true]
    · by_cases high : 400 < digitCount coefficient + exponent
      · simp only [decimalPattern, top, low, high, Nat.ne_of_gt positive, Nat.ne_of_gt positive',
          or_false, if_true, if_false]
      · rw [decimalPattern_of_range positive (by omega) (by omega),
          decimalPattern_of_range positive' (by omega) (by omega)]
        apply nearestPattern_congr (Nat.pow_pos (by decide)) (Nat.pow_pos (by decide))
        have exponents : k + (exponent - k).toNat + (-exponent).toNat =
            exponent.toNat + (-(exponent - k)).toNat := by omega
        have powers : 10 ^ k * 10 ^ (exponent - k).toNat * 10 ^ (-exponent).toNat =
            10 ^ exponent.toNat * 10 ^ (-(exponent - k)).toNat := by
          rw [← Nat.pow_add, ← Nat.pow_add, ← Nat.pow_add, exponents]
        generalize Nat.pow 2 1074 = unit
        simp only [Nat.pow_eq]
        calc
          coefficient * 10 ^ k * 10 ^ (exponent - k).toNat * unit * 10 ^ (-exponent).toNat
              = coefficient * unit * (10 ^ k * 10 ^ (exponent - k).toNat * 10 ^ (-exponent).toNat) := by
            ring
          _ = coefficient * 10 ^ exponent.toNat * unit * 10 ^ (-(exponent - k)).toNat := by
            rw [powers]
            ring

/-- The pattern without its sign bit. -/
def unsigned (x : Binary64) : Nat :=
  x.bits.toNat % Nat.pow 2 63

/-- The sign and the rest make up a number. -/
theorem withSign_unsigned (x : Binary64) : withSign x.isNegative x.unsigned = x := by
  have bound : x.bits.toNat < 2 ^ 64 := x.bits.toNat_lt
  have whole : (if x.isNegative then x.unsigned + Nat.pow 2 63 else x.unsigned) =
      x.bits.toNat := by
    simp only [isNegative, unsigned, Nat.pow_eq, decide_eq_true_eq]
    split <;> omega
  rw [withSign, whole, UInt64.ofNat_toNat]

/-- The exponent field and the fraction field make up the pattern without its sign. -/
theorem unsigned_eq_fields (x : Binary64) :
    x.unsigned = x.fraction + x.biased * Nat.pow 2 52 := by
  simp only [unsigned, fraction, biased, Nat.pow_eq]
  omega

theorem fraction_lt (x : Binary64) : x.fraction < 2 ^ 52 :=
  Nat.mod_lt _ (Nat.pow_pos (by decide))

theorem biased_lt_of_isFinite {x : Binary64} (finite : x.isFinite = true) : x.biased < 2047 := by
  have bound : x.biased < 2 ^ 11 := Nat.mod_lt _ (Nat.pow_pos (by decide))
  have infinite : x.biased ≠ 2047 := by simpa [isFinite] using finite
  omega

/-- The shift that brings a magnitude below `2⁵³` is the one it is stored with. -/
theorem log2_magnitude (x : Binary64) : x.magnitude.log2 - 52 = x.biased - 1 := by
  have fraction := x.fraction_lt
  cases Nat.eq_zero_or_pos x.biased with
  | inl zero =>
    have magnitude : x.magnitude = x.fraction := by simp [magnitude, significand, zero]
    rw [magnitude, zero]
    by_cases none : x.fraction = 0
    · rw [none]
      rfl
    · have := (Nat.log2_lt none).2 fraction
      omega
  | inr positive =>
    have significand : x.significand = x.fraction + 2 ^ 52 := by
      simp [significand, Nat.ne_of_gt positive]
    have power : 0 < 2 ^ (x.biased - 1) := Nat.pow_pos (by decide)
    have magnitude : x.magnitude = (x.fraction + 2 ^ 52) * 2 ^ (x.biased - 1) := by
      rw [magnitude, significand]
      rfl
    have log : x.magnitude.log2 = 52 + (x.biased - 1) := by
      rw [Nat.log2_eq_iff (by rw [magnitude]; exact Nat.mul_ne_zero (by omega) (by omega)),
        magnitude]
      constructor
      · rw [Nat.pow_add]
        exact Nat.mul_le_mul_right _ (by omega)
      · rw [Nat.add_right_comm, Nat.pow_add]
        exact Nat.mul_lt_mul_of_pos_right (by omega) power
    omega

/-- **The magnitude of a finite number rounds to the number.** -/
theorem nearestPattern_magnitude {x : Binary64} (finite : x.isFinite = true) :
    nearestPattern x.magnitude 1 = x.unsigned := by
  have fraction := x.fraction_lt
  have biased := biased_lt_of_isFinite finite
  have small : x.unsigned ≤ infinityBits := by
    rw [unsigned_eq_fields, infinityBits]
    simp only [Nat.pow_eq]
    omega
  have rounded : roundEven x.magnitude (1 * Nat.pow 2 (x.biased - 1)) = x.significand := by
    rw [Nat.one_mul, magnitude]
    exact roundEven_mul _ (Nat.pow_pos (by decide))
  have fields : x.significand + (x.biased - 1) * Nat.pow 2 52 = x.unsigned := by
    rw [unsigned_eq_fields, significand]
    simp only [Nat.pow_eq]
    split <;> omega
  rw [nearestPattern]
  simp only [Nat.div_one, log2_magnitude, rounded, fields]
  exact Nat.min_eq_left small

theorem isFinite_withSign (negative : Bool) {pattern : Nat} (below : pattern < infinityBits) :
    (withSign negative pattern).isFinite = true := by
  have exponent : (withSign negative pattern).biased = pattern / 2 ^ 52 := by
    simp only [infinityBits, Nat.pow_eq] at below
    simp only [biased, withSign, Nat.pow_eq, UInt64.toNat_ofNat']
    split <;> omega
  have small : pattern / 2 ^ 52 < 2047 := (Nat.div_lt_iff_lt_mul (by decide)).2 below
  rw [isFinite, exponent, bne_iff_ne]
  exact Nat.ne_of_lt small

/-- A quotient of few bits has a small exponent. -/
theorem nearestPattern_le {num den k : Nat} (below : num / den < 2 ^ (53 + k)) :
    nearestPattern num den ≤ (k + 2) * 2 ^ 52 := by
  have log : (num / den).log2 < 53 + k := by
    by_cases none : num / den = 0
    · rw [none, Nat.log2_zero]
      omega
    · exact (Nat.log2_lt none).2 below
  have significand : num / (den * Nat.pow 2 ((num / den).log2 - 52)) < 2 ^ 53 := by
    rw [← Nat.div_div_eq_div_mul, Nat.pow_eq]
    apply (Nat.div_lt_iff_lt_mul (Nat.two_pow_pos _)).2
    calc num / den < 2 ^ ((num / den).log2 + 1) := Nat.lt_log2_self
      _ ≤ 2 ^ (53 + ((num / den).log2 - 52)) := Nat.pow_le_pow_right (by decide) (by omega)
      _ = 2 ^ 53 * 2 ^ ((num / den).log2 - 52) := Nat.pow_add 2 53 _
  have rounded := roundEven_le num (den * Nat.pow 2 ((num / den).log2 - 52))
  rw [nearestPattern]
  simp only [Nat.pow_eq] at rounded significand ⊢
  omega

/-- An integer of 64 bits is far from the largest number. -/
theorem isFinite_ofInt {n : Int} (small : n.natAbs ≤ 2 ^ 64) : (ofInt n).isFinite = true := by
  have scaled (k : Nat) : n.natAbs * Nat.pow 2 k / 1 < 2 ^ (53 + (12 + k)) := by
    rw [Nat.div_one]
    calc n.natAbs * 2 ^ k ≤ 2 ^ 64 * 2 ^ k := Nat.mul_le_mul_right _ small
      _ = 2 ^ (64 + k) := (Nat.pow_add 2 64 k).symm
      _ < 2 ^ (53 + (12 + k)) := Nat.pow_lt_pow_right (by decide) (by omega)
  have below : (12 + 1074 + 2) * 2 ^ 52 < infinityBits := by decide
  rw [ofInt]
  generalize 1074 = k at below ⊢
  exact isFinite_withSign _ (Nat.lt_of_le_of_lt (nearestPattern_le (scaled k)) below)

end Binary64

end Targeting

import Mathlib.Order.MinMax
import Mathlib.Tactic.SplitIfs
import Targeting.Proofs.Rounding

/-!
# Rounding keeps the order

Of two quotients with one denominator the smaller one is rounded to the smaller pattern
(`Binary64.nearestPattern_mono`), and the order of the patterns is the order of the magnitudes. Up to
`2⁵³` every count of a unit of medium size is the magnitude of a number, so integers up to there are
exact (`Binary64.magnitude_ofInt`).
-/

set_option autoImplicit false

namespace Targeting

theorem le_roundEven (num den : Nat) : num / den ≤ roundEven num den := by
  simp only [roundEven]
  split
  · omega
  · split <;> omega

/-- Rounding to a whole number keeps the order. -/
theorem roundEven_mono {num num' : Nat} (le : num ≤ num') (den : Nat) :
    roundEven num den ≤ roundEven num' den := by
  have quotients : num / den ≤ num' / den := Nat.div_le_div_right le
  rcases Nat.lt_or_eq_of_le quotients with less | same
  · calc roundEven num den ≤ num / den + 1 := roundEven_le num den
      _ ≤ num' / den := less
      _ ≤ roundEven num' den := le_roundEven num' den
  · -- With one quotient the remainders decide.
    have remainders : num % den ≤ num' % den := by
      have whole := Nat.div_add_mod num den
      have whole' := Nat.div_add_mod num' den
      rw [same] at whole
      omega
    simp only [roundEven, same]
    split_ifs <;> omega

namespace Binary64

theorem log2_mono {m n : Nat} (le : m ≤ n) : m.log2 ≤ n.log2 := by
  by_cases zero : m = 0
  · rw [zero, Nat.log2_zero]
    exact Nat.zero_le _
  · rw [Nat.le_log2 (by omega)]
    exact Nat.le_trans (Nat.log2_self_le zero) le

/-- A quotient of many bits has a large exponent. -/
theorem le_nearestPattern {num den k : Nat} (above : 2 ^ (52 + k) ≤ num / den) :
    min ((k + 1) * 2 ^ 52) infinityBits ≤ nearestPattern num den := by
  have some : num / den ≠ 0 := Nat.ne_of_gt (Nat.lt_of_lt_of_le (Nat.two_pow_pos _) above)
  have log : 52 + k ≤ (num / den).log2 := (Nat.le_log2 some).2 above
  have significand : 2 ^ 52 ≤ num / (den * Nat.pow 2 ((num / den).log2 - 52)) := by
    rw [← Nat.div_div_eq_div_mul, Nat.pow_eq, Nat.le_div_iff_mul_le (Nat.two_pow_pos _),
      ← Nat.pow_add, Nat.add_sub_cancel' (by omega)]
    exact Nat.log2_self_le some
  have rounded := le_roundEven num (den * Nat.pow 2 ((num / den).log2 - 52))
  rw [nearestPattern]
  apply min_le_min_right
  simp only [Nat.pow_eq] at rounded significand ⊢
  omega

/-- Rounding to a number keeps the order. -/
theorem nearestPattern_mono {num num' : Nat} (le : num ≤ num') (den : Nat) :
    nearestPattern num den ≤ nearestPattern num' den := by
  have quotients : num / den ≤ num' / den := Nat.div_le_div_right le
  have logs : (num / den).log2 ≤ (num' / den).log2 := log2_mono quotients
  rcases Nat.lt_or_eq_of_le (Nat.sub_le_sub_right logs 52) with fewer | same
  · -- A significand that rounds up to `2⁵³` reaches no further than the next exponent.
    have below : num / den < 2 ^ (53 + ((num / den).log2 - 52)) :=
      Nat.lt_of_lt_of_le Nat.lt_log2_self (Nat.pow_le_pow_right (by decide) (by omega))
    have above : 2 ^ (52 + ((num' / den).log2 - 52)) ≤ num' / den := by
      have some : num' / den ≠ 0 := by
        intro zero
        rw [zero] at fewer
        cases fewer
      rw [Nat.add_sub_cancel' (by omega)]
      exact Nat.log2_self_le some
    apply Nat.le_trans (Nat.le_min.2 ⟨?_, Nat.min_le_right _ _⟩) (le_nearestPattern above)
    apply Nat.le_trans (nearestPattern_le below)
    exact Nat.mul_le_mul_right _ (by omega)
  · simp only [nearestPattern, same]
    apply min_le_min_right
    exact Nat.add_le_add_right (roundEven_mono le _) _

theorem magnitude_congr {x y : Binary64} (same : x.unsigned = y.unsigned) :
    x.magnitude = y.magnitude := by
  have := x.fraction_lt
  have := y.fraction_lt
  rw [unsigned_eq_fields, unsigned_eq_fields] at same
  simp only [Nat.pow_eq] at same
  have fraction : x.fraction = y.fraction := by omega
  have biased : x.biased = y.biased := by omega
  rw [magnitude, magnitude, significand, significand, fraction, biased]

/-- The order of the patterns is the order of the magnitudes. -/
theorem magnitude_mono {x y : Binary64} (finite : x.isFinite = true) (finite' : y.isFinite = true)
    (le : x.unsigned ≤ y.unsigned) : x.magnitude ≤ y.magnitude := by
  by_contra greater
  have le' : y.unsigned ≤ x.unsigned := by
    rw [← nearestPattern_magnitude finite, ← nearestPattern_magnitude finite']
    exact nearestPattern_mono (by omega) 1
  exact greater (Nat.le_of_eq (magnitude_congr (Nat.le_antisymm le le')))

/-- Larger patterns have larger magnitudes. -/
theorem magnitude_lt_of_unsigned_lt {x y : Binary64} (finite : x.isFinite = true)
    (finite' : y.isFinite = true) (less : x.unsigned < y.unsigned) :
    x.magnitude < y.magnitude := by
  refine lt_of_le_of_ne (magnitude_mono finite finite' (Nat.le_of_lt less)) ?_
  intro same
  rw [← nearestPattern_magnitude finite, ← nearestPattern_magnitude finite', same] at less
  exact Nat.lt_irrefl _ less

theorem unsigned_lt_of_isFinite {x : Binary64} (finite : x.isFinite = true) :
    x.unsigned < infinityBits := by
  have fraction := x.fraction_lt
  have biased := biased_lt_of_isFinite finite
  rw [unsigned_eq_fields, infinityBits]
  simp only [Nat.pow_eq]
  omega

theorem unsigned_withSign (negative : Bool) {pattern : Nat} (small : pattern ≤ infinityBits) :
    (withSign negative pattern).unsigned = pattern := by
  simp only [infinityBits, Nat.pow_eq] at small
  simp only [unsigned, withSign, Nat.pow_eq, UInt64.toNat_ofNat']
  split <;> omega

theorem isNegative_withSign (negative : Bool) {pattern : Nat} (small : pattern ≤ infinityBits) :
    (withSign negative pattern).isNegative = negative := by
  simp only [infinityBits, Nat.pow_eq] at small
  simp only [isNegative, withSign, Nat.pow_eq, UInt64.toNat_ofNat']
  cases negative <;> simp <;> omega

theorem ofInt_pattern_le (n : Int) :
    nearestPattern (n.natAbs * Nat.pow 2 1074) 1 ≤ infinityBits :=
  Nat.min_le_right _ _

theorem isNegative_ofInt (n : Int) : (ofInt n).isNegative = decide (n < 0) :=
  isNegative_withSign _ (ofInt_pattern_le n)

theorem unsigned_ofInt (n : Int) :
    (ofInt n).unsigned = nearestPattern (n.natAbs * Nat.pow 2 1074) 1 :=
  unsigned_withSign _ (ofInt_pattern_le n)

/-- What is larger stays larger when it is rounded. -/
theorem magnitude_ofInt_mono {a e : Int} (le : a.natAbs ≤ e.natAbs) (small : e.natAbs ≤ 2 ^ 64) :
    (ofInt a).magnitude ≤ (ofInt e).magnitude := by
  apply magnitude_mono (isFinite_ofInt (Nat.le_trans le small)) (isFinite_ofInt small)
  rw [unsigned_ofInt, unsigned_ofInt]
  exact nearestPattern_mono (Nat.mul_le_mul_right _ le) 1

/-! ## Small integers are exact -/

/-- A pattern that is the sum of a significand and a shift has that significand, also where it was
rounded up to one bit more. -/
theorem magnitude_of_unsigned {x : Binary64} {c s : Nat} (normal : s = 0 ∨ 2 ^ 52 ≤ c)
    (most : c ≤ 2 ^ 53) (sum : x.unsigned = c + s * 2 ^ 52) :
    x.magnitude = c * 2 ^ s ∧ x.fraction % 2 = c % 2 := by
  have fraction := x.fraction_lt
  rw [unsigned_eq_fields] at sum
  simp only [magnitude, significand, Nat.pow_eq] at sum ⊢
  rcases Nat.lt_or_ge c (2 ^ 52) with small | large
  · have zero : s = 0 := by omega
    have biased : x.biased = 0 := by omega
    have same : x.fraction = c := by omega
    simp [zero, biased, same]
  · rcases Nat.lt_or_eq_of_le most with less | carried
    · have biased : x.biased = s + 1 := by omega
      have same : x.fraction + 2 ^ 52 = c := by omega
      rw [biased, if_neg (Nat.succ_ne_zero s), same, Nat.add_sub_cancel]
      exact ⟨rfl, by omega⟩
    · have biased : x.biased = s + 1 + 1 := by omega
      have none : x.fraction = 0 := by omega
      rw [biased, if_neg (Nat.succ_ne_zero (s + 1)), none, carried, Nat.zero_add,
        Nat.add_sub_cancel, Nat.pow_succ 2 s, Nat.pow_succ 2 52, Nat.mul_assoc,
        Nat.mul_comm (2 ^ s) 2]
      exact ⟨rfl, rfl⟩

/-- A number of the smaller exponents, from its significand and its shift. -/
theorem magnitude_withSign (negative : Bool) {c s : Nat} (low : 2 ^ 52 ≤ c) (high : c < 2 ^ 53)
    (finite : s < 2045) :
    (withSign negative (c + s * 2 ^ 52)).isFinite = true ∧
    (withSign negative (c + s * 2 ^ 52)).magnitude = c * 2 ^ s := by
  have small : c + s * 2 ^ 52 < infinityBits := by
    simp only [infinityBits, Nat.pow_eq]
    omega
  have sum := unsigned_withSign negative (Nat.le_of_lt small)
  exact ⟨isFinite_withSign negative small,
    (magnitude_of_unsigned (.inr low) (Nat.le_of_lt high) sum).1⟩

/-- Up to `2⁵³` every count of a unit of medium size is the magnitude of a finite number. -/
theorem exists_magnitude {m k : Nat} (small : m ≤ 2 ^ 53) (low : 52 ≤ k) (high : k < 2044) :
    ∃ x : Binary64, x.isFinite = true ∧ x.magnitude = m * Nat.pow 2 k := by
  rw [Nat.pow_eq]
  by_cases zero : m = 0
  · refine ⟨withSign false 0, by decide, ?_⟩
    rw [zero, Nat.zero_mul]
    decide
  · rcases Nat.lt_or_eq_of_le small with less | most
    · -- Doubled until it has 53 bits, the number is a significand.
      have log : m.log2 < 53 := (Nat.log2_lt zero).2 less
      have double : 2 ^ m.log2 * 2 ^ (52 - m.log2) = 2 ^ 52 := by
        rw [← Nat.pow_add]
        congr 1
        omega
      have least : 2 ^ 52 ≤ m * 2 ^ (52 - m.log2) := by
        rw [← double]
        exact Nat.mul_le_mul_right _ (Nat.log2_self_le zero)
      have most : m * 2 ^ (52 - m.log2) < 2 ^ 53 := by
        calc m * 2 ^ (52 - m.log2) < 2 ^ (m.log2 + 1) * 2 ^ (52 - m.log2) :=
              Nat.mul_lt_mul_of_pos_right Nat.lt_log2_self (Nat.two_pow_pos _)
          _ = 2 ^ 53 := by
            rw [Nat.pow_succ, Nat.mul_right_comm, double, ← Nat.pow_succ]
      obtain ⟨finite, magnitude⟩ :=
        magnitude_withSign false (s := m.log2 + k - 52) least most (by omega)
      refine ⟨_, finite, ?_⟩
      rw [magnitude, Nat.mul_assoc, ← Nat.pow_add]
      congr 2
      omega
    · obtain ⟨finite, magnitude⟩ :=
        magnitude_withSign false (c := 2 ^ 52) (s := k + 1) (by decide) (by decide) (by omega)
      refine ⟨_, finite, ?_⟩
      rw [magnitude, most, ← Nat.pow_add, ← Nat.pow_add]
      congr 1
      omega

theorem magnitude_ofInt {n : Int} (small : n.natAbs ≤ 2 ^ 53) :
    (ofInt n).magnitude = n.natAbs * Nat.pow 2 1074 := by
  have pattern := unsigned_ofInt n
  have low : 52 ≤ 1074 := by decide
  have high : 1074 < 2044 := by decide
  generalize 1074 = k at pattern low high ⊢
  obtain ⟨x, finite, magnitude⟩ := exists_magnitude small low high
  rw [← magnitude, nearestPattern_magnitude finite] at pattern
  rw [← magnitude]
  exact magnitude_congr pattern

end Binary64

end Targeting

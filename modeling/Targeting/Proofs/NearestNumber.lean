import Mathlib.Algebra.Order.Group.Abs
import Mathlib.Data.Nat.Dist
import Mathlib.Tactic.Linarith
import Targeting.Proofs.IntegerOrder

/-!
# Integers become the nearest number

Of the finite numbers the one nearest to a value has its sign, none is nearer, and if another one is
equally near its fraction is even (`Binary64.IsNearest`). Rounding takes one of the two multiples of
a power of two around the exact value, and no number lies between those two
(`Binary64.magnitude_outside`). So an integer of 64 bits becomes the number nearest to it, and no
other number is that (`Binary64.isNearest_iff_eq_ofInt`).
-/

set_option autoImplicit false

namespace Targeting

/-- Rounding goes down where less than half is left and up where more is, and from the middle to the
even side. -/
theorem roundEven_cases (num den : Nat) :
    (roundEven num den = num / den ∧
      (2 * (num % den) < den ∨ 2 * (num % den) = den ∧ num / den % 2 = 0)) ∨
    (roundEven num den = num / den + 1 ∧
      (den < 2 * (num % den) ∨ 2 * (num % den) = den ∧ num / den % 2 = 1)) := by
  simp only [roundEven]
  split_ifs <;> omega

/-- **What does not lie between two neighbouring multiples** is not nearer than the one that
rounding takes, and if it is equally near that one is even. -/
theorem roundEven_nearest {num den m : Nat} (positive : 0 < den)
    (outside : m ≤ num / den * den ∨ (num / den + 1) * den ≤ m) :
    Nat.dist (roundEven num den * den) num ≤ Nat.dist m num ∧
    (Nat.dist m num = Nat.dist (roundEven num den * den) num → m ≠ roundEven num den * den →
      roundEven num den % 2 = 0) := by
  have rest : num % den < den := Nat.mod_lt num positive
  have whole : num / den * den + num % den = num := Nat.div_add_mod' num den
  rw [Nat.succ_mul] at outside
  unfold Nat.dist
  rcases roundEven_cases num den with ⟨rounded, less⟩ | ⟨rounded, more⟩
  · rw [rounded]
    generalize num / den * den = low at whole outside ⊢
    omega
  · rw [rounded, Nat.succ_mul]
    generalize num / den * den = low at whole outside ⊢
    omega

namespace Binary64

/-- The nearest of all finite numbers: it has the sign of the value, none is nearer, and where
another one is equally near its fraction is even. -/
structure IsNearest (x : Binary64) (value : ℚ) : Prop where
  finite : x.isFinite = true
  sign : x.isNegative = decide (value < 0)
  nearest (y : Binary64) (finite : y.isFinite = true) : |x.toRat - value| ≤ |y.toRat - value|
  even (y : Binary64) (finite : y.isFinite = true) (tie : |y.toRat - value| = |x.toRat - value|)
    (other : y.toRat ≠ x.toRat) : x.fraction % 2 = 0

theorem significand_lt (x : Binary64) : x.significand < 2 ^ 53 := by
  have fraction := x.fraction_lt
  rw [significand]
  split
  · omega
  · rw [Nat.pow_eq]
    omega

/-- No number has a magnitude between two neighbouring multiples of a power of two, if it takes 53
bits to count those. -/
theorem magnitude_outside (x : Binary64) {f s : Nat} (normal : s = 0 ∨ 2 ^ 52 ≤ f) :
    x.magnitude ≤ f * 2 ^ s ∨ (f + 1) * 2 ^ s ≤ x.magnitude := by
  rw [magnitude, Nat.pow_eq]
  by_cases coarse : s ≤ x.biased - 1
  · -- The magnitude is itself such a multiple.
    have power : 2 ^ (x.biased - 1) = 2 ^ (x.biased - 1 - s) * 2 ^ s := by
      rw [← Nat.pow_add, Nat.sub_add_cancel coarse]
    rw [power, ← Nat.mul_assoc]
    rcases Nat.lt_or_ge f (x.significand * 2 ^ (x.biased - 1 - s)) with above | below
    · exact .inr (Nat.mul_le_mul_right _ above)
    · exact .inl (Nat.mul_le_mul_right _ below)
  · left
    have large : 2 ^ 52 ≤ f := by omega
    calc x.significand * 2 ^ (x.biased - 1) ≤ 2 ^ 53 * 2 ^ (x.biased - 1) :=
          Nat.mul_le_mul_right _ (Nat.le_of_lt x.significand_lt)
      _ = 2 ^ 52 * 2 ^ (x.biased - 1 + 1) := by
          rw [Nat.pow_succ 2 52, Nat.pow_succ 2 (x.biased - 1), Nat.mul_assoc,
            Nat.mul_comm 2 (2 ^ (x.biased - 1))]
      _ ≤ 2 ^ 52 * 2 ^ s := Nat.mul_le_mul_left _ (Nat.pow_le_pow_right (by decide) (by omega))
      _ ≤ f * 2 ^ s := Nat.mul_le_mul_right _ large

/-- The shift of a magnitude leaves 53 bits of it, or fewer where nothing is shifted. -/
theorem shifted_bits (num : Nat) :
    (num.log2 - 52 = 0 ∨ 2 ^ 52 ≤ num / 2 ^ (num.log2 - 52)) ∧
    num / 2 ^ (num.log2 - 52) < 2 ^ 53 := by
  have power : 0 < 2 ^ (num.log2 - 52) := Nat.two_pow_pos _
  rw [Nat.le_div_iff_mul_le power, Nat.div_lt_iff_lt_mul power, ← Nat.pow_add, ← Nat.pow_add]
  constructor
  · rcases Nat.eq_zero_or_pos (num.log2 - 52) with none | some
    · exact .inl none
    · right
      rw [Nat.add_sub_cancel' (by omega)]
      refine Nat.log2_self_le ?_
      rintro rfl
      cases some
  · exact Nat.lt_of_lt_of_le Nat.lt_log2_self (Nat.pow_le_pow_right (by decide) (by omega))

/-- **Rounding finds the nearest magnitude**, the even one of two that are equally near. -/
theorem magnitude_nearest {x : Binary64} (finite : x.isFinite = true) {num : Nat}
    (rounded : x.unsigned = nearestPattern num 1) (y : Binary64) :
    Nat.dist x.magnitude num ≤ Nat.dist y.magnitude num ∧
    (Nat.dist y.magnitude num = Nat.dist x.magnitude num → y.magnitude ≠ x.magnitude →
      x.fraction % 2 = 0) := by
  have below := unsigned_lt_of_isFinite finite
  obtain ⟨normal, few⟩ := shifted_bits num
  simp only [nearestPattern, Nat.div_one, Nat.one_mul, Nat.pow_eq] at rounded
  generalize num.log2 - 52 = s at rounded normal few
  -- A finite number was not cut down to infinity.
  have sum : x.unsigned = roundEven num (2 ^ s) + s * 2 ^ 52 := by omega
  have least := le_roundEven num (2 ^ s)
  have most := roundEven_le num (2 ^ s)
  obtain ⟨magnitude, parity⟩ := magnitude_of_unsigned (by omega) (by omega) sum
  rw [magnitude, parity]
  exact roundEven_nearest (Nat.two_pow_pos s) (y.magnitude_outside normal)

/-! ## Signed values -/

theorem units_eq_or (x : Binary64) :
    x.units = (x.magnitude : Int) ∨ x.units = -(x.magnitude : Int) := by
  rw [units]
  split
  · exact .inr rfl
  · exact .inl rfl

/-- Between numbers and values of one sign only the magnitudes count. -/
theorem natAbs_units_sub {x : Binary64} {count : Int}
    (sign : x.isNegative = decide (count < 0)) :
    (x.units - count).natAbs = Nat.dist x.magnitude count.natAbs := by
  rw [units, sign]
  unfold Nat.dist
  by_cases negative : count < 0
  · rw [if_pos (decide_eq_true negative)]
    omega
  · rw [if_neg (by simpa using negative)]
    omega

/-- A number of the other sign is not nearer than its magnitude tells. -/
theorem dist_le_natAbs (x : Binary64) (count : Int) :
    Nat.dist x.magnitude count.natAbs ≤ (x.units - count).natAbs := by
  rw [units]
  unfold Nat.dist
  split <;> omega

/-- How far a number is from a count of units. -/
theorem abs_toRat_sub (x : Binary64) (count : Int) :
    |x.toRat - count * 2 ^ (-1074 : ℤ)| =
      ((x.units - count).natAbs : ℚ) * 2 ^ (-1074 : ℤ) := by
  have unit : (0 : ℚ) < 2 ^ (-1074 : ℤ) := zpow_pos two_pos _
  rw [toRat_eq_units, ← sub_mul, abs_mul, abs_of_pos unit, Nat.cast_natAbs, Int.cast_abs,
    Int.cast_sub]

/-- **What a whole count of units rounds to is the number nearest to it.** -/
theorem isNearest_of_rounded {x : Binary64} (finite : x.isFinite = true) {count : Int}
    (sign : x.isNegative = decide (count < 0))
    (rounded : x.unsigned = nearestPattern count.natAbs 1) :
    x.IsNearest (count * 2 ^ (-1074 : ℤ)) := by
  have unit : (0 : ℚ) < 2 ^ (-1074 : ℤ) := zpow_pos two_pos _
  have here := natAbs_units_sub sign
  constructor
  · exact finite
  · rw [sign, decide_eq_decide, lt_iff_lt_of_le_iff_le (mul_nonneg_iff_of_pos_right unit),
      Int.cast_lt_zero]
  · intro y _
    have near := (magnitude_nearest finite rounded y).1
    rw [abs_toRat_sub, abs_toRat_sub, here]
    refine mul_le_mul_of_nonneg_right ?_ (le_of_lt unit)
    exact Nat.cast_le.2 (Nat.le_trans near (y.dist_le_natAbs count))
  · intro y _ tie other
    rw [abs_toRat_sub, abs_toRat_sub, mul_left_inj' (ne_of_gt unit), Nat.cast_inj] at tie
    have differ : y.units ≠ x.units := by
      intro same
      rw [toRat_eq_units, toRat_eq_units, same] at other
      exact other rfl
    obtain ⟨near, even⟩ := magnitude_nearest finite rounded y
    have far := y.dist_le_natAbs count
    refine even (by omega) ?_
    -- Numbers of one magnitude and two signs are equally near to zero alone, which is itself.
    intro same
    have notFar := (magnitude_nearest finite rounded zero).1
    have none : zero.magnitude = 0 := by decide
    rw [none] at notFar
    rw [here] at tie
    unfold Nat.dist at notFar tie
    have := x.units_eq_or
    have := y.units_eq_or
    omega

/-- A whole number is a whole count of units. -/
theorem exists_count (n : Int) (k : Nat) :
    ∃ count : Int, (n : ℚ) = count * 2 ^ (-k : ℤ) ∧ (count < 0 ↔ n < 0) ∧
      count.natAbs = n.natAbs * Nat.pow 2 k := by
  have positive : 0 < ((Nat.pow 2 k : Nat) : Int) := Int.natCast_pos.2 (Nat.two_pow_pos k)
  refine ⟨n * (Nat.pow 2 k : Nat), ?_, ?_, ?_⟩
  · rw [Int.cast_mul, Int.cast_natCast, Nat.pow_eq, Nat.cast_pow, Nat.cast_ofNat, mul_assoc,
      ← zpow_natCast, ← zpow_add₀ two_ne_zero, add_neg_cancel, zpow_zero, mul_one]
  · exact lt_iff_lt_of_le_iff_le (mul_nonneg_iff_of_pos_right positive)
  · rw [Int.natAbs_mul, Int.natAbs_natCast]

/-- **An integer of 64 bits becomes the number nearest to it.** -/
theorem isNearest_ofInt {n : Int} (small : n.natAbs ≤ 2 ^ 64) : (ofInt n).IsNearest n := by
  have pattern := unsigned_ofInt n
  obtain ⟨count, value, sign, size⟩ := exists_count n 1074
  rw [value]
  refine isNearest_of_rounded (isFinite_ofInt small) ?_ ?_
  · rw [isNegative_ofInt, decide_eq_decide, sign]
  · generalize 1074 = k at pattern size
    rw [pattern, size]

/-! ## Nothing else is nearest -/

/-- A number is its sign and its magnitude. -/
theorem toRat_eq_magnitude (x : Binary64) :
    x.toRat = (if x.isNegative then -1 else 1) * (x.magnitude * 2 ^ (-1074 : ℤ)) := by
  rw [toRat_eq_units, units]
  cases x.isNegative <;> simp

/-- Between numbers of one sign the order of the values is that of the magnitudes or its
opposite. -/
theorem toRat_between {x y z : Binary64} (sign : y.isNegative = x.isNegative)
    (sign' : z.isNegative = x.isNegative) (above : x.magnitude < z.magnitude)
    (below : z.magnitude < y.magnitude) :
    x.toRat < z.toRat ∧ z.toRat < y.toRat ∨ y.toRat < z.toRat ∧ z.toRat < x.toRat := by
  have unit : (0 : ℚ) < 2 ^ (-1074 : ℤ) := zpow_pos two_pos _
  have above' := mul_lt_mul_of_pos_right (Nat.cast_lt (α := ℚ).2 above) unit
  have below' := mul_lt_mul_of_pos_right (Nat.cast_lt (α := ℚ).2 below) unit
  rw [toRat_eq_magnitude, toRat_eq_magnitude, toRat_eq_magnitude, sign, sign']
  cases x.isNegative with
  | false => exact .inl (by simpa using ⟨above, below⟩)
  | true => exact .inr (by simpa using ⟨below, above⟩)

/-- Between two numbers of one sign with even fractions there is a third. -/
theorem exists_between {x y : Binary64} (finite : x.isFinite = true) (finite' : y.isFinite = true)
    (sign : y.isNegative = x.isNegative) (even : x.fraction % 2 = 0) (even' : y.fraction % 2 = 0)
    (less : x.unsigned < y.unsigned) :
    ∃ z : Binary64, z.isFinite = true ∧
      (x.toRat < z.toRat ∧ z.toRat < y.toRat ∨ y.toRat < z.toRat ∧ z.toRat < x.toRat) := by
  have bound := unsigned_lt_of_isFinite finite'
  have next : x.unsigned + 1 < y.unsigned := by
    have fields := x.unsigned_eq_fields
    have fields' := y.unsigned_eq_fields
    simp only [Nat.pow_eq] at fields fields'
    omega
  have small : x.unsigned + 1 < infinityBits := Nat.lt_trans next bound
  have pattern := unsigned_withSign x.isNegative (Nat.le_of_lt small)
  have between := isFinite_withSign x.isNegative small
  refine ⟨withSign x.isNegative (x.unsigned + 1), between, ?_⟩
  refine toRat_between sign (isNegative_withSign _ (Nat.le_of_lt small)) ?_ ?_
  · exact magnitude_lt_of_unsigned_lt finite between (by rw [pattern]; exact Nat.lt_succ_self _)
  · exact magnitude_lt_of_unsigned_lt between finite' (by rw [pattern]; exact next)

/-- Of two values that are equally far from a third, what lies between them is nearer to it. -/
theorem abs_sub_lt_of_between {a b c value : ℚ} (tie : |a - value| = |b - value|)
    (between : a < c ∧ c < b ∨ b < c ∧ c < a) : |c - value| < |a - value| := by
  rcases abs_eq_abs.1 tie with same | opposite
  · rcases between with ⟨above, below⟩ | ⟨above, below⟩ <;> linarith
  · rcases between with ⟨above, below⟩ | ⟨above, below⟩
    · rw [abs_of_neg (by linarith : a - value < 0), abs_lt]
      constructor <;> linarith
    · rw [abs_of_pos (by linarith : 0 < a - value), abs_lt]
      constructor <;> linarith

/-- Of two nearest numbers neither has the larger pattern: both would have even fractions, and what
lies between them would be nearer. -/
theorem IsNearest.not_unsigned_lt {x y : Binary64} {value : ℚ} (h : x.IsNearest value)
    (h' : y.IsNearest value) : ¬ x.unsigned < y.unsigned := by
  intro less
  have sign : y.isNegative = x.isNegative := h'.sign.trans h.sign.symm
  have tie : |x.toRat - value| = |y.toRat - value| :=
    le_antisymm (h.nearest y h'.finite) (h'.nearest x h.finite)
  have other : x.toRat ≠ y.toRat := by
    intro same
    rw [toRat_eq_magnitude, toRat_eq_magnitude, sign] at same
    have scaled := mul_left_cancel₀ (by split <;> norm_num) same
    have magnitudes : x.magnitude = y.magnitude :=
      Nat.cast_injective (mul_right_cancel₀ (zpow_ne_zero _ two_ne_zero) scaled)
    exact absurd magnitudes (ne_of_lt (magnitude_lt_of_unsigned_lt h.finite h'.finite less))
  have even := h.even y h'.finite tie.symm other.symm
  have even' := h'.even x h.finite tie other
  obtain ⟨z, finite, between⟩ := exists_between h.finite h'.finite sign even even' less
  exact absurd (h.nearest z finite) (not_le.2 (abs_sub_lt_of_between tie between))

/-- **There is but one nearest number.** -/
theorem IsNearest.unique {x y : Binary64} {value : ℚ} (h : x.IsNearest value)
    (h' : y.IsNearest value) : x = y := by
  have pattern : x.unsigned = y.unsigned :=
    Nat.le_antisymm (not_lt.1 (h'.not_unsigned_lt h)) (not_lt.1 (h.not_unsigned_lt h'))
  rw [← x.withSign_unsigned, ← y.withSign_unsigned, pattern, h.sign, h'.sign]

/-- **An integer of 64 bits becomes the one number that is nearest to it.** -/
theorem isNearest_iff_eq_ofInt {x : Binary64} {n : Int} (small : n.natAbs ≤ 2 ^ 64) :
    x.IsNearest n ↔ x = ofInt n := by
  constructor
  · intro h
    exact h.unique (isNearest_ofInt small)
  · rintro rfl
    exact isNearest_ofInt small

end Binary64

end Targeting

import Targeting.Json.Numeral
import Targeting.Proofs.RoundingOrder
import Targeting.Proofs.Shortest

/-!
# What is read of a decimal

A reader rounds the digits it gathers, then the power of ten, then what the two give together. Of few
digits and a small power nothing is lost before the last rounding, so such a decimal is read as the
number nearest to it (`Binary64.scale_eq_decimalPattern`). In general the number read is another one,
but a decimal below the largest number is never read as infinite (`Binary64.isFinite_scale`): what is
gathered is no more than the decimal, and the roundings together are too small to lead over the gap
above the last number but one.
-/

set_option autoImplicit false

namespace Targeting

/-! ## Gathering digits -/

namespace Json

theorem le_ofDigitChars (n : Nat) (digits : List Char) : n ≤ Nat.ofDigitChars 10 digits n := by
  induction digits generalizing n with
  | nil => exact Nat.le_refl n
  | cons d ds ih =>
    rw [Nat.ofDigitChars_cons]
    exact Nat.le_trans (by omega) (ih _)

/-- Every digit behind a number makes it ten times as large at least. -/
theorem mul_pow_le_ofDigitChars (n : Nat) (digits : List Char) :
    n * 10 ^ digits.length ≤ Nat.ofDigitChars 10 digits n := by
  induction digits generalizing n with
  | nil => simp
  | cons d ds ih =>
    rw [Nat.ofDigitChars_cons, List.length_cons, Nat.pow_succ', ← Nat.mul_assoc, Nat.mul_comm n 10]
    exact Nat.le_trans (Nat.mul_le_mul_right _ (Nat.le_add_right _ _)) (ih _)

/-- Digits that a word holds are gathered all. -/
theorem gather_of_lt {n : Nat} {digits : List Char}
    (word : Nat.ofDigitChars 10 digits n < 2 ^ 64) :
    gather n digits = (Nat.ofDigitChars 10 digits n, []) := by
  induction digits generalizing n with
  | nil => rfl
  | cons d ds ih =>
    rw [Nat.ofDigitChars_cons] at word ⊢
    have next : 10 * n + (d.toNat - '0'.toNat) < Nat.pow 2 64 :=
      Nat.lt_of_le_of_lt (le_ofDigitChars _ ds) word
    rw [gather]
    simp only [if_pos next]
    exact ih word

/-- What is gathered of some digits is the number of the digits in front of those left over, and is
a word; the first digit left over would make it too large. -/
structure Gathers (n : Nat) (digits : List Char) (gathered : Nat) (left : List Char) : Prop where
  value : ∃ taken, digits = taken ++ left ∧ gathered = Nat.ofDigitChars 10 taken n
  word : gathered < 2 ^ 64
  full (d : Char) (ds : List Char) : left = d :: ds → 2 ^ 64 ≤ 10 * gathered + (d.toNat - '0'.toNat)

theorem gathers {n : Nat} (word : n < 2 ^ 64) (digits : List Char) :
    Gathers n digits (gather n digits).1 (gather n digits).2 := by
  induction digits generalizing n with
  | nil => exact ⟨⟨[], rfl, rfl⟩, word, nofun⟩
  | cons d ds ih =>
    unfold gather
    dsimp only
    split
    · rename_i next
      obtain ⟨⟨taken, digits, value⟩, word, full⟩ := ih next
      refine ⟨⟨d :: taken, ?_, ?_⟩, word, full⟩
      · rw [List.cons_append, ← digits]
      · rw [Nat.ofDigitChars_cons, ← value]
    · rename_i beyond
      refine ⟨⟨[], rfl, rfl⟩, word, fun e es left => ?_⟩
      cases left
      exact Nat.not_lt.1 beyond

/-- What is gathered before some digits that are left over is no more than all the digits. -/
theorem Gathers.le {n gathered : Nat} {digits left : List Char} (h : Gathers n digits gathered left) :
    gathered * 10 ^ left.length ≤ Nat.ofDigitChars 10 digits n := by
  obtain ⟨taken, rfl, rfl⟩ := h.value
  rw [Nat.ofDigitChars_append]
  exact mul_pow_le_ofDigitChars _ left

/-- **What is gathered in front of the point and behind it is no more than the number**, although
digits are gathered behind the point after one in front of it was left over. -/
theorem gathered_le {front back dropped unread : List Char} {n m : Nat}
    (first : Gathers 0 front n dropped) (second : Gathers n back m unread) :
    m * 10 ^ (dropped.length + unread.length) ≤ Nat.ofDigitChars 10 (front ++ back) 0 := by
  rw [Nat.ofDigitChars_append]
  obtain ⟨taken, rfl, value⟩ := first.value
  rw [Nat.ofDigitChars_append, ← value]
  cases dropped with
  | nil =>
    rw [Nat.ofDigitChars_nil, List.length_nil, Nat.zero_add]
    exact second.le
  | cons d ds =>
    obtain ⟨taken', digits, value'⟩ := second.value
    have number : 2 ^ 64 * 10 ^ ds.length ≤ Nat.ofDigitChars 10 (d :: ds) n := by
      rw [Nat.ofDigitChars_cons]
      exact Nat.le_trans (Nat.mul_le_mul_right _ (first.full d ds rfl)) (mul_pow_le_ofDigitChars _ ds)
    cases taken' with
    | nil =>
      -- Nothing was gathered behind the point.
      rw [List.nil_append] at digits
      rw [value', Nat.ofDigitChars_nil, digits, Nat.pow_add, ← Nat.mul_assoc]
      exact Nat.le_trans (Nat.mul_le_mul_right _ (mul_pow_le_ofDigitChars n _))
        (mul_pow_le_ofDigitChars _ unread)
    | cons t ts =>
      -- The digit left over in front is worth more than those gathered instead of it.
      have places : ds.length + 1 + unread.length ≤ ds.length + back.length := by
        rw [digits, List.length_append, List.length_cons]
        omega
      calc m * 10 ^ (ds.length + 1 + unread.length)
          ≤ 2 ^ 64 * 10 ^ (ds.length + back.length) :=
            Nat.mul_le_mul (Nat.le_of_lt second.word) (Nat.pow_le_pow_right (by decide) places)
        _ = 2 ^ 64 * 10 ^ ds.length * 10 ^ back.length := by rw [Nat.pow_add, Nat.mul_assoc]
        _ ≤ Nat.ofDigitChars 10 (d :: ds) n * 10 ^ back.length := Nat.mul_le_mul_right _ number
        _ ≤ Nat.ofDigitChars 10 back (Nat.ofDigitChars 10 (d :: ds) n) :=
            mul_pow_le_ofDigitChars _ back

end Json

/-! ## Powers of ten -/

namespace Binary64

theorem decimalPattern_le (coefficient : Nat) (exponent : Int) :
    decimalPattern coefficient exponent ≤ infinityBits := by
  unfold decimalPattern
  dsimp only
  split
  · exact Nat.zero_le _
  · split
    · exact Nat.le_refl _
    · split <;> exact Nat.min_le_right _ _

theorem isNegative_powerOfTen (n : Nat) : (powerOfTen n).isNegative = false :=
  isNegative_withSign false (decimalPattern_le 1 n)

theorem isNegative_ofNat (n : Nat) : (ofInt n).isNegative = false := by
  rw [isNegative_ofInt]
  exact decide_eq_false (by omega)

/-- Powers of ten up to the twenty-second are exact. -/
theorem magnitude_powerOfTen :
    ∀ n < 23, (powerOfTen n).magnitude = Nat.pow 10 n * Nat.pow 2 1074 := by
  decide +kernel

theorem natPow_pos (k : Nat) : 0 < Nat.pow 2 k :=
  Nat.two_pow_pos k

theorem decimalPattern_zero (exponent : Int) : decimalPattern 0 exponent = 0 := by
  unfold decimalPattern
  dsimp only
  rw [if_pos (Or.inl rfl)]

theorem nearestPattern_zero (den : Nat) : nearestPattern 0 den = 0 := by
  simp [nearestPattern, roundEven]

/-- A decimal without places behind the point that is not far too large is a count of ones. -/
theorem decimalPattern_natCast {c n : Nat} (high : digitCount c + n ≤ 400) :
    decimalPattern c n = nearestPattern (c * Nat.pow 10 n * Nat.pow 2 1074) 1 := by
  rcases Nat.eq_zero_or_pos c with zero | positive
  · simp only [zero, Nat.zero_mul, decimalPattern_zero, nearestPattern_zero]
  · unfold decimalPattern
    dsimp only
    rw [if_neg (by omega), if_neg (by omega), if_pos (by omega), Int.toNat_natCast]

/-- A decimal with places behind the point that is not far too small is a quotient. -/
theorem decimalPattern_neg {c n : Nat} (places : 0 < n) (high : digitCount c ≤ 400 + n)
    (low : n ≤ 400) :
    decimalPattern c (-n) = nearestPattern (c * Nat.pow 2 1074) (Nat.pow 10 n) := by
  rcases Nat.eq_zero_or_pos c with zero | positive
  · simp only [zero, Nat.zero_mul, decimalPattern_zero, nearestPattern_zero]
  · unfold decimalPattern
    dsimp only
    rw [if_neg (by omega), if_neg (by omega), if_neg (by omega), Int.neg_neg, Int.toNat_natCast]

section Powers

variable {n : Nat} (table : n ≤ topPower)
include table

theorem unsigned_powerOfTen :
    (powerOfTen n).unsigned = nearestPattern (Nat.pow 10 n * Nat.pow 2 1074) 1 := by
  have top : topPower = 308 := rfl
  have single : digitCount 1 = 1 := rfl
  rw [powerOfTen, unsigned_withSign false (decimalPattern_le 1 n),
    decimalPattern_natCast (by omega), Nat.one_mul]

theorem unsigned_powerOfTen_mono {m : Nat} (le : m ≤ n) :
    (powerOfTen m).unsigned ≤ (powerOfTen n).unsigned := by
  rw [unsigned_powerOfTen table, unsigned_powerOfTen (Nat.le_trans le table)]
  exact nearestPattern_mono (Nat.mul_le_mul_right _ (Nat.pow_le_pow_right (by decide) le)) 1

theorem isFinite_powerOfTen : (powerOfTen n).isFinite = true := by
  have last : (powerOfTen topPower).unsigned < infinityBits := by decide +kernel
  have below := unsigned_powerOfTen_mono (Nat.le_refl _) table
  rw [← withSign_unsigned (powerOfTen n)]
  exact isFinite_withSign _ (Nat.lt_of_le_of_lt below last)

theorem magnitude_powerOfTen_mono {m : Nat} (le : m ≤ n) :
    (powerOfTen m).magnitude ≤ (powerOfTen n).magnitude :=
  magnitude_mono (isFinite_powerOfTen (Nat.le_trans le table)) (isFinite_powerOfTen table)
    (unsigned_powerOfTen_mono table le)

/-- No power of ten is less than one. -/
theorem le_magnitude_powerOfTen : Nat.pow 2 1074 ≤ (powerOfTen n).magnitude := by
  have first : (powerOfTen 0).magnitude = Nat.pow 2 1074 := by decide +kernel
  exact Nat.le_trans (Nat.le_of_eq first.symm) (magnitude_powerOfTen_mono table (Nat.zero_le n))

end Powers

/-! ## Few digits are read exactly -/

/-- The product of two counts of ones. -/
theorem nearestPattern_product (c p : Nat) {one : Nat} (positive : 0 < one) :
    nearestPattern (c * one * (p * one)) one = nearestPattern (c * p * one) 1 := by
  refine nearestPattern_congr positive Nat.one_pos ?_
  ring

/-- The quotient of two counts of ones. -/
theorem nearestPattern_quotient (c : Nat) {p one : Nat} (some : 0 < p) (positive : 0 < one) :
    nearestPattern (c * one * one) (p * one) = nearestPattern (c * one) p := by
  refine nearestPattern_congr (Nat.mul_pos some positive) some ?_
  ring

section Exact

variable {c : Nat} (small : c ≤ 2 ^ 53) {n : Nat} (few : n ≤ 22)
include small few

/-- Few digits times a small power of ten are rounded once. -/
theorem mul_powerOfTen : (ofInt c).mul (powerOfTen n) = withSign false (decimalPattern c n) := by
  have length : digitCount c ≤ 16 := (digitCount_le_iff c (by decide)).2 (by omega)
  have digits : (ofInt c).magnitude = c * Nat.pow 2 1074 := magnitude_ofInt (n := c) small
  have power := magnitude_powerOfTen n (by omega)
  rw [mul, isNegative_ofNat, isNegative_powerOfTen, digits, power,
    decimalPattern_natCast (by omega)]
  generalize 1074 = k
  rw [nearestPattern_product c _ (natPow_pos k)]
  rfl

/-- Few digits over a small power of ten are rounded once. -/
theorem div_powerOfTen (places : 0 < n) :
    (ofInt c).div (powerOfTen n) = withSign false (decimalPattern c (-n)) := by
  have length : digitCount c ≤ 16 := (digitCount_le_iff c (by decide)).2 (by omega)
  have digits : (ofInt c).magnitude = c * Nat.pow 2 1074 := magnitude_ofInt (n := c) small
  have power := magnitude_powerOfTen n (by omega)
  have tens : 0 < Nat.pow 10 n := Nat.pow_pos (by decide)
  rw [div, isNegative_ofNat, isNegative_powerOfTen, digits, power,
    decimalPattern_neg places (by omega) (by omega)]
  generalize 1074 = k
  rw [nearestPattern_quotient c tens (natPow_pos k)]
  rfl

end Exact

/-- **Few digits with a small power of ten are read as the number nearest to the decimal.** -/
theorem scale_eq_decimalPattern {c : Nat} (small : c ≤ 2 ^ 53) {exponent : Int}
    (near : exponent.natAbs ≤ 22) :
    (ofInt c).scale exponent = withSign false (decimalPattern c exponent) := by
  unfold scale
  split
  · obtain ⟨n, power⟩ : ∃ n : Nat, exponent = -n := ⟨(-exponent).toNat, by omega⟩
    have times : (n - 1) / topPower = 0 := by
      rw [topPower]
      omega
    subst power
    rw [Int.neg_neg, Int.toNat_natCast, divPowerOfTen, times, Nat.zero_mul, Nat.sub_zero, divTop]
    exact div_powerOfTen small (by omega) (by omega)
  · obtain ⟨n, power⟩ : ∃ n : Nat, exponent = n := ⟨exponent.toNat, by omega⟩
    have table : ¬(topPower : Int) < exponent := by
      have top : topPower = 308 := rfl
      omega
    rw [if_neg table, power, Int.toNat_natCast]
    exact mul_powerOfTen small (by omega)

/-! ## What is finite is read as finite -/

theorem isFinite_div {x y : Binary64} (finite : x.isFinite = true)
    (large : Nat.pow 2 1074 ≤ y.magnitude) : (x.div y).isFinite = true := by
  refine isFinite_withSign _ (Nat.lt_of_le_of_lt ?_ (unsigned_lt_of_isFinite finite))
  generalize 1074 = k at large ⊢
  have positive : 0 < y.magnitude := Nat.lt_of_lt_of_le (natPow_pos k) large
  calc nearestPattern (x.magnitude * Nat.pow 2 k) y.magnitude
      ≤ nearestPattern (x.magnitude * y.magnitude) y.magnitude :=
        nearestPattern_mono (Nat.mul_le_mul_left _ large) _
    _ = nearestPattern x.magnitude 1 := nearestPattern_congr positive Nat.one_pos (Nat.mul_one _)
    _ = x.unsigned := nearestPattern_magnitude finite

theorem isFinite_divTop {x : Binary64} (finite : x.isFinite = true) (n : Nat) :
    (divTop n x).isFinite = true := by
  induction n generalizing x with
  | zero => exact finite
  | succ n ih =>
    unfold divTop
    split
    · exact finite
    · exact ih (isFinite_div finite (le_magnitude_powerOfTen (Nat.le_refl _)))

theorem isFinite_divPowerOfTen {x : Binary64} (finite : x.isFinite = true) (n : Nat) :
    (x.divPowerOfTen n).isFinite = true := by
  refine isFinite_div (isFinite_divTop finite _) (le_magnitude_powerOfTen ?_)
  have top : topPower = 308 := rfl
  rw [top]
  omega

/-- The middle between the largest number and the one before it. -/
def lastMiddle : Nat := Nat.pow 2 1024 - Nat.pow 2 971 - Nat.pow 2 970

/-- What is greater than the last middle rounds to the largest number at least. -/
theorem nearestPattern_lastMiddle :
    nearestPattern ((lastMiddle + 1) * Nat.pow 2 1074) 1 = infinityBits - 1 := by
  decide +kernel

/-- Up to the last middle nothing that a word holds becomes infinite, whatever power of ten comes
with it. -/
theorem nearestPattern_lastProduct :
    ∀ i < 21, nearestPattern
      ((ofInt (min (2 ^ 64) (lastMiddle / Nat.pow 10 (288 + i)) : Nat)).magnitude *
        (powerOfTen (288 + i)).magnitude) (Nat.pow 2 1074) < infinityBits := by
  decide +kernel

/-- A whole number that is no more than a decimal is rounded to no more. -/
theorem le_decimalPattern {m c : Nat} {exponent : Int}
    (le : m * Nat.pow 10 (-exponent).toNat ≤ c * Nat.pow 10 exponent.toNat) :
    nearestPattern (m * Nat.pow 2 1074) 1 ≤ decimalPattern c exponent := by
  have tens : 0 < Nat.pow 10 (-exponent).toNat := Nat.pow_pos (by decide)
  rcases Nat.eq_zero_or_pos m with zero | some
  · simp only [zero, Nat.zero_mul, nearestPattern_zero, Nat.zero_le]
  · have positive : 0 < c := by
      refine Nat.pos_of_ne_zero fun none => ?_
      rw [none, Nat.zero_mul, Nat.le_zero, Nat.mul_eq_zero] at le
      omega
    by_cases low : digitCount c + exponent < -400
    · -- So small a decimal is less than one.
      exfalso
      have zero : exponent.toNat = 0 := by omega
      have below : c < 10 ^ (-exponent).toNat :=
        Nat.lt_of_lt_of_le ((digitCount_le_iff c (digitCount_pos c)).1 (Nat.le_refl _))
          (Nat.pow_le_pow_right (by decide) (by omega))
      rw [zero] at le
      have least := Nat.le_mul_of_pos_left (Nat.pow 10 (-exponent).toNat) some
      simp only [Nat.pow_eq, Nat.pow_zero, Nat.mul_one] at le least
      omega
    · by_cases high : 400 < digitCount c + exponent
      · have huge : decimalPattern c exponent = infinityBits := by
          unfold decimalPattern
          dsimp only
          rw [if_neg (by omega), if_pos high]
        rw [huge]
        exact Nat.min_le_right _ _
      · rw [decimalPattern_of_range positive (by omega) (by omega)]
        generalize Nat.pow 2 1074 = one
        calc nearestPattern (m * one) 1
            = nearestPattern (m * Nat.pow 10 (-exponent).toNat * one)
                (Nat.pow 10 (-exponent).toNat) := by
              refine nearestPattern_congr Nat.one_pos tens ?_
              ring
          _ ≤ nearestPattern (c * Nat.pow 10 exponent.toNat * one)
                (Nat.pow 10 (-exponent).toNat) :=
              nearestPattern_mono (Nat.mul_le_mul_right _ le) _

/-- What is gathered of a decimal below the largest number is no more than the last middle. -/
theorem le_lastMiddle {c n k m : Nat} {exponent : Int} (gathered : m * 10 ^ k ≤ c)
    (power : exponent + k = n) (below : decimalPattern c exponent < infinityBits - 1) :
    m * 10 ^ n ≤ lastMiddle := by
  by_contra more
  have le : (lastMiddle + 1) * Nat.pow 10 (-exponent).toNat ≤ c * Nat.pow 10 exponent.toNat := by
    have exponents : n + (-exponent).toNat = k + exponent.toNat := by omega
    calc (lastMiddle + 1) * 10 ^ (-exponent).toNat
        ≤ m * 10 ^ n * 10 ^ (-exponent).toNat := Nat.mul_le_mul_right _ (by omega)
      _ = m * 10 ^ k * 10 ^ exponent.toNat := by
        rw [Nat.mul_assoc, ← Nat.pow_add, exponents, Nat.pow_add, Nat.mul_assoc]
      _ ≤ c * 10 ^ exponent.toNat := Nat.mul_le_mul_right _ gathered
  have largest := le_decimalPattern le
  rw [nearestPattern_lastMiddle] at largest
  omega

theorem isFinite_mul_powerOfTen {m n : Nat} (word : m < 2 ^ 64) (table : n ≤ topPower)
    (below : m * 10 ^ n ≤ lastMiddle) : ((ofInt m).mul (powerOfTen n)).isFinite = true := by
  have top : topPower = 308 := rfl
  -- Below the powers of the table a word is the only bound.
  obtain ⟨i, within, power, bound⟩ : ∃ i < 21, n ≤ 288 + i ∧
      m ≤ min (2 ^ 64) (lastMiddle / Nat.pow 10 (288 + i)) := by
    by_cases small : n ≤ 288
    · have room : 2 ^ 64 ≤ lastMiddle / Nat.pow 10 (288 + 0) := by decide +kernel
      exact ⟨0, by decide, small, Nat.le_min.2 ⟨Nat.le_of_lt word, by omega⟩⟩
    · refine ⟨n - 288, by omega, by omega, Nat.le_min.2 ⟨Nat.le_of_lt word, ?_⟩⟩
      rw [Nat.add_sub_cancel' (by omega)]
      exact (Nat.le_div_iff_mul_le (Nat.pow_pos (by decide))).2 below
  have small : min (2 ^ 64) (lastMiddle / Nat.pow 10 (288 + i)) ≤ 2 ^ 64 := Nat.min_le_left _ _
  have digits := magnitude_ofInt_mono (a := (m : Nat))
    (e := (min (2 ^ 64) (lastMiddle / Nat.pow 10 (288 + i)) : Nat)) bound small
  have powers := magnitude_powerOfTen_mono (show 288 + i ≤ topPower by omega) power
  exact isFinite_withSign _ (Nat.lt_of_le_of_lt
    (nearestPattern_mono (Nat.mul_le_mul digits powers) _) (nearestPattern_lastProduct i within))

/-- **A decimal below the largest number is never read as infinite**, whatever is gathered of it. -/
theorem isFinite_scale {c m k : Nat} {exponent : Int} (word : m < 2 ^ 64) (gathered : m * 10 ^ k ≤ c)
    (below : decimalPattern c exponent < infinityBits - 1) :
    ((ofInt m).scale (exponent + k)).isFinite = true := by
  have finite : (ofInt m).isFinite = true := isFinite_ofInt (n := m) (Nat.le_of_lt word)
  unfold scale
  split
  · exact isFinite_divPowerOfTen finite _
  · obtain ⟨n, power⟩ : ∃ n : Nat, exponent + k = n := ⟨(exponent + k).toNat, by omega⟩
    have bound := le_lastMiddle gathered power below
    rw [power]
    split
    · rename_i beyond
      -- Beyond the table nothing but zero is below the largest number.
      have zero : m = 0 := by
        by_contra some
        have limit : lastMiddle < 10 ^ (topPower + 1) := by decide +kernel
        have beyond' : topPower + 1 ≤ n := by omega
        have tens := Nat.pow_le_pow_right (n := 10) (by decide) beyond'
        have least := Nat.le_mul_of_pos_left (10 ^ n) (Nat.pos_of_ne_zero some)
        omega
      have nothing : (ofInt m).magnitude = 0 := by
        rw [zero]
        decide +kernel
      rw [if_pos nothing]
      exact finite
    · rw [Int.toNat_natCast]
      exact isFinite_mul_powerOfTen word (by omega) bound

end Binary64

end Targeting

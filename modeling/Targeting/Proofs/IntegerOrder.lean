import Targeting.Proofs.ExactOrder
import Targeting.Proofs.RoundingOrder

/-!
# Integers keep their order

Integers become attributes by rounding to the nearest number of 64 bits. Rounding keeps the order
(`Binary64.nearestPattern_mono`), so of two integers the smaller one never becomes the larger
number, but above `2⁵³` several integers become one. Up to there every integer is the exact value of
a number (`Binary64.toRat_ofInt`), and comparing the numbers is comparing the integers
(`Leaf.integers_keep_order`).
-/

set_option autoImplicit false

namespace Targeting

namespace Binary64

theorem units_ofInt (n : Int) :
    (ofInt n).units = if n < 0 then -((ofInt n).magnitude : Int) else (ofInt n).magnitude := by
  rw [units, isNegative_ofInt]
  simp only [decide_eq_true_eq]

/-- **Turning integers of 64 bits into numbers keeps their order.** -/
theorem toRat_ofInt_mono {a e : Int} (small : a.natAbs ≤ 2 ^ 64) (small' : e.natAbs ≤ 2 ^ 64)
    (le : a ≤ e) : (ofInt a).toRat ≤ (ofInt e).toRat := by
  have units : (ofInt a).units ≤ (ofInt e).units := by
    rw [units_ofInt, units_ofInt]
    by_cases negative : e < 0
    · -- Below zero the one that is less has the larger magnitude.
      have magnitudes := magnitude_ofInt_mono (a := e) (e := a) (by omega) small
      rw [if_pos (by omega), if_pos negative]
      omega
    · rw [if_neg negative]
      split
      · omega
      · have magnitudes := magnitude_ofInt_mono (a := a) (e := e) (by omega) small'
        omega
  rw [toRat_eq_units, toRat_eq_units]
  exact mul_le_mul_of_nonneg_right (Int.cast_le.2 units) (zpow_nonneg zero_le_two _)

/-- **Integers up to `2⁵³` are turned into themselves.** -/
theorem toRat_ofInt {n : Int} (small : n.natAbs ≤ 2 ^ 53) : (ofInt n).toRat = n := by
  have units : (ofInt n).units = n * (Nat.pow 2 1074 : Nat) := by
    rw [units_ofInt, magnitude_ofInt small]
    generalize Nat.pow 2 1074 = unit
    push_cast
    split
    · rename_i negative
      rw [abs_of_neg negative, neg_mul, neg_neg]
    · rename_i positive
      rw [abs_of_nonneg (not_lt.1 positive)]
  have value := toRat_eq_units (ofInt n)
  have cast : (-1074 : ℤ) = -(1074 : Nat) := rfl
  rw [units, cast, Int.cast_mul, Int.cast_natCast, mul_assoc] at value
  generalize 1074 = k at value
  rw [value, Nat.pow_eq, Nat.cast_pow, Nat.cast_ofNat, ← zpow_natCast, ← zpow_add₀ two_ne_zero,
    add_neg_cancel, zpow_zero, mul_one]

end Binary64

namespace Leaf

/-- The verdicts of the operators that compare numbers are those of comparing two integers. -/
structure ComparesIntegers (verdict : Operator → Verdict) (a e : Int) : Prop where
  exact : verdict .exact = .ofBool (decide (a = e))
  gt : verdict .gt = .ofBool (decide (a > e))
  ge : verdict .ge = .ofBool (decide (a ≥ e))
  lt : verdict .lt = .ofBool (decide (a < e))
  le : verdict .le = .ofBool (decide (a ≤ e))

section AnyEngine

variable [Engine]

section Integers

variable {name : String} {look : String → Option Value} {a e : Int}
  (found : look name = some (.ofInt a))

include found

/-- Integers up to `2⁵³` are compared as integers. -/
theorem comparesIntegers_of_small (small : a.natAbs ≤ 2 ^ 53) (small' : e.natAbs ≤ 2 ^ 53)
    (cache : PatternCache) :
    ComparesIntegers (fun o => (evaluate look ⟨name, o, .ofInt e⟩ cache).result) a e := by
  have finite : (Binary64.ofInt a).isFinite = true := Binary64.isFinite_ofInt (by omega)
  have finite' : (Binary64.ofInt e).isFinite = true := Binary64.isFinite_ofInt (by omega)
  have each {o : Operator} (compares : o.comparesNumbers = true) :
      (evaluate look ⟨name, o, .ofInt e⟩ cache).result =
        .ofBool (decide (o.Relates (a : ℚ) (e : ℚ))) := by
    rw [result_evaluate_finite compares found rfl finite finite', Binary64.toRat_ofInt small,
      Binary64.toRat_ofInt small']
  constructor <;> rw [each rfl] <;> simp [Operator.Relates]

variable (small : a.natAbs ≤ 2 ^ 64) (small' : e.natAbs ≤ 2 ^ 64)

include small small'

/-- Integers of 64 bits are compared by what they are rounded to. -/
theorem result_evaluate_integers (cache : PatternCache) {o : Operator}
    (compares : o.comparesNumbers = true) :
    (evaluate look ⟨name, o, .ofInt e⟩ cache).result =
      .ofBool (decide (o.Relates (Binary64.ofInt a).toRat (Binary64.ofInt e).toRat)) :=
  result_evaluate_finite compares found rfl (Binary64.isFinite_ofInt small)
    (Binary64.isFinite_ofInt small') cache

theorem not_less_of_ge (cache : PatternCache) (le : e ≤ a) :
    (evaluate look ⟨name, .ge, .ofInt e⟩ cache).result = .yes ∧
    (evaluate look ⟨name, .lt, .ofInt e⟩ cache).result = .no := by
  have kept := Binary64.toRat_ofInt_mono small' small le
  have decided {o : Operator} (compares : o.comparesNumbers = true) :=
    result_evaluate_integers found small small' cache compares
  rw [decided rfl, decided rfl]
  simp [Operator.Relates, Verdict.ofBool, kept, kept.not_gt]

theorem not_greater_of_le (cache : PatternCache) (le : a ≤ e) :
    (evaluate look ⟨name, .le, .ofInt e⟩ cache).result = .yes ∧
    (evaluate look ⟨name, .gt, .ofInt e⟩ cache).result = .no := by
  have kept := Binary64.toRat_ofInt_mono small small' le
  have decided {o : Operator} (compares : o.comparesNumbers = true) :=
    result_evaluate_integers found small small' cache compares
  rw [decided rfl, decided rfl]
  simp [Operator.Relates, Verdict.ofBool, kept, kept.not_gt]

end Integers

/-- **Comparing integers as numbers of 64 bits never inverts their order.** Let an attribute and the
expected value be integers of 64 bits, each turned into the nearest number. Equal integers are equal
and neither is less, of two integers the one that is not less is never found to be less, and so what
is found to be greater or less is that; each of the five operators decides. Integers up to `2⁵³`,
and all integers of 32 bits, are compared as the integers they are. -/
theorem integers_keep_order (name : String) (look : String → Option Value) (cache : PatternCache) :
    (∀ a e : Int64, look name = some (.ofInt a.toInt) →
      let verdict (o : Operator) : Verdict :=
        (evaluate look ⟨name, o, .ofInt e.toInt⟩ cache).result
      (a = e → verdict .exact = .yes ∧ verdict .ge = .yes ∧ verdict .le = .yes) ∧
      (a ≥ e → verdict .ge = .yes ∧ verdict .lt = .no) ∧
      (a ≤ e → verdict .le = .yes ∧ verdict .gt = .no) ∧
      (verdict .gt = .yes → a > e) ∧ (verdict .lt = .yes → a < e) ∧
      (∀ o ∈ [Operator.gt, .ge, .lt, .le, .exact], verdict o ≠ .unknown) ∧
      (a.toInt.natAbs ≤ 2 ^ 53 → e.toInt.natAbs ≤ 2 ^ 53 →
        ComparesIntegers verdict a.toInt e.toInt)) ∧
    (∀ a e : Int32, look name = some (.ofInt a.toInt) →
      ComparesIntegers (fun o => (evaluate look ⟨name, o, .ofInt e.toInt⟩ cache).result)
        a.toInt e.toInt) := by
  constructor
  · intro a e found verdict
    have small (n : Int64) : n.toInt.natAbs ≤ 2 ^ 64 := by
      have := n.le_toInt
      have := n.toInt_lt
      omega
    have decided {o : Operator} (compares : o.comparesNumbers = true) :=
      result_evaluate_integers found (small a) (small e) cache compares
    have notLess (le : a ≥ e) : verdict .ge = .yes ∧ verdict .lt = .no :=
      not_less_of_ge found (small a) (small e) cache (Int64.le_iff_toInt_le.1 le)
    have notGreater (le : a ≤ e) : verdict .le = .yes ∧ verdict .gt = .no :=
      not_greater_of_le found (small a) (small e) cache (Int64.le_iff_toInt_le.1 le)
    refine ⟨?_, notLess, notGreater, ?_, ?_, ?_, ?_⟩
    · rintro rfl
      have equal : verdict .exact = .yes :=
        (decided rfl).trans (by simp [Operator.Relates, Verdict.ofBool])
      exact ⟨equal, (notLess (Int64.le_refl a)).1, (notGreater (Int64.le_refl a)).1⟩
    · intro greater
      by_contra le
      rw [(notGreater (Int64.not_lt.1 le)).2] at greater
      cases greater
    · intro less
      by_contra le
      rw [(notLess (Int64.not_lt.1 le)).2] at less
      cases less
    · intro o member
      have compares : o.comparesNumbers = true := o.comparesNumbers_iff.2 member
      exact ne_of_eq_of_ne (decided compares) (Verdict.ofBool_ne_unknown _)
    · intro small small'
      exact comparesIntegers_of_small found small small' cache
  · intro a e found
    have small (n : Int32) : n.toInt.natAbs ≤ 2 ^ 53 := by
      have := n.le_toInt
      have := n.toInt_lt
      omega
    exact comparesIntegers_of_small found (small a) (small e) cache

end AnyEngine

/-- The two largest integers become one number, so they are found to be equal and neither is found
to be less; small integers are told apart. -/
theorem largest_integers_become_one :
    let largest : Int64 := 9223372036854775807
    let next : Int64 := 9223372036854775806
    let three : Int32 := 3
    let minus : Int32 := -4
    let user (n : Int) (name : String) : Option Value :=
      if name = "id" then some (.ofInt n) else none
    let verdict (n e : Int) (o : Operator) : Verdict :=
      (evaluate (user n) ⟨"id", o, .ofInt e⟩ .empty).result
    (user largest.toInt "id" = some (.ofInt largest.toInt) ∧ largest ≥ next ∧
      verdict largest.toInt next.toInt .ge = .yes ∧ verdict largest.toInt next.toInt .lt = .no ∧
      verdict largest.toInt next.toInt .exact = .yes ∧ largest ≠ next) ∧
    user minus.toInt "id" = some (.ofInt minus.toInt) ∧
      ComparesIntegers (verdict minus.toInt three.toInt) (-4) 3 := by
  intro largest next three minus user verdict
  obtain ⟨wide, -⟩ := integers_keep_order "id" (user largest.toInt) .empty
  obtain ⟨-, notLess, -⟩ := wide largest next rfl
  obtain ⟨-, narrow⟩ := integers_keep_order "id" (user minus.toInt) .empty
  have ordered : largest ≥ next := by decide
  exact ⟨⟨rfl, ordered, (notLess ordered).1, (notLess ordered).2, by decide +kernel, by decide⟩,
    rfl, narrow minus three rfl⟩

end Leaf

end Targeting

import Mathlib.Algebra.Order.Field.Basic
import Mathlib.Algebra.Order.Ring.Rat
import Mathlib.Order.Compare
import Mathlib.Tactic.FieldSimp
import Mathlib.Tactic.Ring
import Targeting.Proofs.Correspondence

/-!
# Numbers are compared by their exact values

Every finite number has an exact value, a rational number (`Binary64.toRat`). The evaluator compares
counts of units and asks some operators as negations of others; both come to the relation of the
exact values (`Leaf.result_evaluate_finite`), since numbers without a value are set aside first. So
a number counts by its exact value alone, and a zero for the other zero
(`Condition.numbers_count_by_value`).
-/

set_option autoImplicit false

namespace Targeting

namespace Binary64

/-- The exact value of a finite number as the format defines it: the sign, one point the fraction
or, below the smallest exponent, zero point the fraction, and a power of two. -/
def toRat (x : Binary64) : ℚ :=
  let sign : ℚ := if x.isNegative then -1 else 1
  let fraction : ℚ := x.fraction / 2 ^ 52
  if x.biased = 0 then sign * fraction * 2 ^ (-1022 : ℤ)
  else sign * (1 + fraction) * 2 ^ ((x.biased : ℤ) - 1023)

/-- The exact value of a number, if it has one. -/
def value? (x : Binary64) : Option ℚ :=
  if x.isFinite then some x.toRat else none

/-- The exact value is the count of units, each of them `2⁻¹⁰⁷⁴`. -/
theorem toRat_eq_units (x : Binary64) : x.toRat = x.units * 2 ^ (-1074 : ℤ) := by
  have base : (2 : ℚ) ≠ 0 := by decide
  have sign : (x.units : ℚ) = (if x.isNegative then -1 else 1) * (x.magnitude : ℚ) := by
    rw [units]
    cases x.isNegative <;> simp
  rw [sign, toRat, magnitude, significand]
  generalize (if x.isNegative then (-1 : ℚ) else 1) = s
  split
  · rename_i small
    have unit : (2 : ℚ) ^ (-1074 : ℤ) = 2 ^ (-1022 : ℤ) / 2 ^ 52 := by
      rw [← zpow_natCast, ← zpow_sub₀ base]
      rfl
    rw [small, unit]
    simp only [Nat.pow_eq, Nat.zero_sub, Nat.pow_zero, Nat.mul_one]
    ring
  · have power : (2 : ℚ) ^ ((x.biased : ℤ) - 1023) =
        2 ^ 52 * 2 ^ (x.biased - 1) * 2 ^ (-1074 : ℤ) := by
      rw [← zpow_natCast, ← zpow_natCast, ← zpow_add₀ base, ← zpow_add₀ base]
      congr 1
      omega
    rw [power]
    generalize (2 : ℚ) ^ (-1074 : ℤ) = unit
    push_cast [Nat.pow_eq]
    field_simp
    ring

/-- The order of the units is the order of the exact values. -/
theorem compare_units (x y : Binary64) : compare x.units y.units = compare x.toRat y.toRat := by
  have mono : StrictMono fun n : ℤ => (n : ℚ) * 2 ^ (-1074 : ℤ) := by
    intro m n less
    exact mul_lt_mul_of_pos_right (Int.cast_lt.2 less) (zpow_pos two_pos _)
  rw [toRat_eq_units, toRat_eq_units, ← cmp_eq_compare, ← cmp_eq_compare]
  exact (mono.cmp_map_eq x.units y.units).symm

theorem value?_of_isFinite {x : Binary64} (finite : x.isFinite = true) :
    x.value? = some x.toRat := by
  rw [value?, if_pos finite]

theorem value?_eq_none_iff (x : Binary64) : x.value? = none ↔ x.isFinite = false := by
  cases finite : x.isFinite <;> simp [value?, finite]

/-- What is asked of the exact values of two numbers is asked of both values where both are finite. -/
theorem asked_of_finite {α : Type} {x y : Binary64} (finite : x.isFinite = true)
    (finite' : y.isFinite = true) (f : ℚ → ℚ → α) :
    (x.value?.bind fun a => y.value?.map fun e => f a e) = some (f x.toRat y.toRat) := by
  rw [value?_of_isFinite finite, value?_of_isFinite finite']
  rfl

/-- Of two numbers of which one has no exact value nothing is asked. -/
theorem asked_of_infinite {α : Type} {x y : Binary64}
    (infinite : x.isFinite = false ∨ y.isFinite = false) (f : ℚ → ℚ → α) :
    (x.value?.bind fun a => y.value?.map fun e => f a e) = none := by
  rcases infinite with infinite | infinite
  · rw [(value?_eq_none_iff x).2 infinite, Option.bind_none]
  · rw [(value?_eq_none_iff y).2 infinite]
    cases x.value? <;> rfl

/-- **Two numbers are compared as their exact values are.** -/
theorem order?_eq (x y : Binary64) :
    x.order? y = x.value?.bind fun a => y.value?.map fun e => compare a e := by
  unfold order? value?
  cases x.isFinite <;> cases y.isFinite <;> simp [compare_units]

end Binary64

namespace Operator

/-- Does the operator compare two numbers? -/
def comparesNumbers (o : Operator) : Bool :=
  o == .exact || o.isNumeric

theorem comparesNumbers_iff (o : Operator) :
    o.comparesNumbers = true ↔ o ∈ [gt, ge, lt, le, exact] := by
  cases o <;> decide

/-- What an operator that compares two numbers asks of their exact values. -/
def Relates : Operator → ℚ → ℚ → Prop
  | exact, a, e => a = e
  | gt, a, e => a > e
  | ge, a, e => a ≥ e
  | lt, a, e => a < e
  | le, a, e => a ≤ e
  | _, _, _ => False

instance (o : Operator) (a e : ℚ) : Decidable (o.Relates a e) :=
  match o with
  | exact => inferInstanceAs (Decidable (a = e))
  | gt => inferInstanceAs (Decidable (a > e))
  | ge => inferInstanceAs (Decidable (a ≥ e))
  | lt => inferInstanceAs (Decidable (a < e))
  | le => inferInstanceAs (Decidable (a ≤ e))
  | present | substring | regex => inferInstanceAs (Decidable False)

/-- How two exact values compare answers what a numeric operator asks of them. -/
theorem ofOrdering_compare {o : Operator} (numeric : o.isNumeric = true) (a e : ℚ) :
    o.ofOrdering (compare a e) = decide (o.Relates a e) := by
  rw [Bool.eq_iff_iff, decide_eq_true_iff]
  cases o with
  | gt =>
    simp only [ofOrdering, Relates, beq_iff_eq]
    exact compare_gt_iff_gt
  | ge =>
    simp only [ofOrdering, Relates, bne_iff_ne, ne_eq]
    rw [compare_lt_iff_lt, not_lt]
  | lt =>
    simp only [ofOrdering, Relates, beq_iff_eq]
    exact compare_lt_iff_lt
  | le =>
    simp only [ofOrdering, Relates, bne_iff_ne, ne_eq]
    rw [compare_gt_iff_gt, not_lt]
  | _ => cases numeric

theorem eq_of_compare (a e : ℚ) : (compare a e == .eq) = decide (exact.Relates a e) := by
  rw [Bool.eq_iff_iff, decide_eq_true_iff, beq_iff_eq]
  exact compare_eq_iff_eq

end Operator

namespace Leaf

/-- Two numbers are compared as their exact values, if both have one. -/
theorem compare?_numbers (x y : Binary64) :
    compare? (.number x) (.number y) =
      x.value?.bind fun a => y.value?.map fun e => Ord.compare a e := by
  rw [← Binary64.order?_eq]
  unfold compare? Value.asFinite?
  cases finite : x.isFinite <;> cases finite' : y.isFinite <;>
    simp [Binary64.order?, finite, finite']

variable [Engine]

/-- An operator that compares two numbers asks for a relation of their exact values. -/
theorem result_compare_numbers {l : Leaf} {y : Binary64}
    (compares : l.operator.comparesNumbers = true) (expected : l.value = .number y) (x : Binary64)
    (cache : PatternCache) :
    (l.compare (.number x) cache).result =
      x.value?.bind fun a => y.value?.map fun e => decide (l.operator.Relates a e) := by
  have answers (f : Ordering → Bool)
      (answer : ∀ a e : ℚ, f (Ord.compare a e) = decide (l.operator.Relates a e)) :
      (compare? (.number x) (.number y)).map f =
        x.value?.bind fun a => y.value?.map fun e => decide (l.operator.Relates a e) := by
    rw [compare?_numbers]
    cases x.value? <;> cases y.value? <;> simp [answer]
  unfold compare
  rw [expected]
  cases operator : l.operator with
  | exact =>
    rw [operator] at answers
    exact answers _ Operator.eq_of_compare
  | gt | ge | lt | le =>
    rw [operator] at answers
    exact answers _ (Operator.ofOrdering_compare rfl)
  | _ =>
    rw [operator] at compares
    cases compares

/-- A leaf that compares says of a known attribute what comparing answers. -/
theorem result_evaluate_known {look : String → Option Value} {l : Leaf} {actual : Value}
    (compares : l.operator ≠ .present) (found : known look l.name = some actual)
    (cache : PatternCache) :
    (l.evaluate look cache).result = (l.compare actual cache).result.elim .unknown .ofBool := by
  unfold evaluate
  rw [if_neg compares, found]
  dsimp only
  cases (l.compare actual cache).result <;> rfl

variable {look : String → Option Value} {l : Leaf} {x y : Binary64}
  (compares : l.operator.comparesNumbers = true) (found : look l.name = some (.number x))
  (expected : l.value = .number y)

include compares found expected

theorem result_evaluate_numbers (cache : PatternCache) :
    (l.evaluate look cache).result =
      (x.value?.bind fun a => y.value?.map fun e => decide (l.operator.Relates a e)).elim .unknown
        .ofBool := by
  have present : l.operator ≠ .present := by
    intro present
    rw [present] at compares
    cases compares
  have known : known look l.name = some (.number x) := by
    rw [known, found]
    rfl
  rw [result_evaluate_known present known, result_compare_numbers compares expected]

/-- Finite numbers are decided by their exact values. -/
theorem result_evaluate_finite (finite : x.isFinite = true) (finite' : y.isFinite = true)
    (cache : PatternCache) :
    (l.evaluate look cache).result = .ofBool (decide (l.operator.Relates x.toRat y.toRat)) := by
  rw [result_evaluate_numbers compares found expected, Binary64.asked_of_finite finite finite']
  rfl

/-- Where a number is not finite nothing is decided. -/
theorem result_evaluate_infinite (infinite : x.isFinite = false ∨ y.isFinite = false)
    (cache : PatternCache) : (l.evaluate look cache).result = .unknown := by
  rw [result_evaluate_numbers compares found expected, Binary64.asked_of_infinite infinite]
  rfl

end Leaf

/-! ## Numbers of one value -/

/-- Values that hold the same: equal ones, and two numbers of one exact value or of none. -/
inductive Value.Alike : Value → Value → Prop
  | same (v : Value) : Alike v v
  | numbers {x y : Binary64} (h : x.value? = y.value?) : Alike (.number x) (.number y)

/-- Leaves that differ at most in how the expected number is written. -/
structure Leaf.Alike (l m : Leaf) : Prop where
  name : l.name = m.name
  operator : l.operator = m.operator
  value : l.value.Alike m.value

/-- Under every name both sources have nothing or values that hold the same. -/
def KnowAlike (look look' : String → Option Value) : Prop :=
  ∀ name, Option.Rel Value.Alike (look name) (look' name)

namespace Value

/-- The exact value of a number that has one. -/
def rational? : Value → Option ℚ
  | number x => x.value?
  | _ => none

namespace Alike

variable {v w : Value} (h : v.Alike w)

include h

theorem isNull_eq : v.isNull = w.isNull := by
  cases h <;> rfl

theorem asText?_eq : v.asText? = w.asText? := by
  cases h <;> rfl

theorem rational?_eq : v.rational? = w.rational? := by
  cases h with
  | same => rfl
  | numbers same => exact same

end Alike

theorem Alike.rel_filter {keep : Value → Bool} (kept : ∀ v w, Alike v w → keep v = keep w) :
    {found found' : Option Value} → Option.Rel Alike found found' →
      Option.Rel Alike (found.filter keep) (found'.filter keep)
  | _, _, .none => .none
  | _, _, .some (a := v) (b := w) alike => by
    rw [Option.filter_some, Option.filter_some, kept v w alike]
    split
    · exact .some alike
    · exact .none

end Value

theorem KnowAlike.known {look look' : String → Option Value} (h : KnowAlike look look')
    (name : String) : Option.Rel Value.Alike (known look name) (known look' name) :=
  Value.Alike.rel_filter (fun _ _ alike => congrArg Bool.not alike.isNull_eq) (h name)

namespace Leaf

/-- What is compared are exact values. -/
theorem compare?_eq (actual expected : Value) :
    compare? actual expected =
      actual.rational?.bind fun a => expected.rational?.map fun e => Ord.compare a e := by
  cases actual with
  | number x =>
    cases expected with
    | number y => exact compare?_numbers x y
    | _ => simp [compare?, Value.rational?, Value.asFinite?]
  | _ => cases expected <;> rfl

theorem compare?_alike {actual actual' expected expected' : Value} (h : actual.Alike actual')
    (h' : expected.Alike expected') : compare? actual expected = compare? actual' expected' := by
  rw [compare?_eq, compare?_eq, h.rational?_eq, h'.rational?_eq]

theorem equal?_alike {actual actual' expected expected' : Value} (h : actual.Alike actual')
    (h' : expected.Alike expected') : equal? actual expected = equal? actual' expected' := by
  have compared := compare?_alike h h'
  cases h with
  | same =>
    cases h' with
    | same => rfl
    | numbers => cases actual <;> simp [equal?, compared]
  | numbers =>
    cases h' with
    | same => cases expected <;> simp [equal?, compared]
    | numbers => simp [equal?, compared]

variable [Engine]

namespace Alike

variable {l m : Leaf} (h : l.Alike m)

include h

theorem result_compare {actual actual' : Value} (h' : actual.Alike actual') (cache : PatternCache) :
    (l.compare actual cache).result = (m.compare actual' cache).result := by
  unfold compare
  rw [h.operator, h'.asText?_eq, h.value.asText?_eq, equal?_alike h' h.value,
    compare?_alike h' h.value]

/-- Leaves that differ at most in how the expected number is written have the same verdict on
sources that know alike. -/
theorem result_evaluate {look look' : String → Option Value} (sources : KnowAlike look look')
    (cache : PatternCache) : (l.evaluate look cache).result = (m.evaluate look' cache).result := by
  have both := sources.known m.name
  unfold evaluate
  rw [h.operator, h.name]
  generalize known look m.name = found at both ⊢
  generalize known look' m.name = found' at both ⊢
  cases both with
  | none => split <;> rfl
  | some alike =>
    dsimp only
    rw [h.result_compare alike]
    split
    · rfl
    · cases (m.compare _ cache).result <;> rfl

end Alike

end Leaf

namespace Binary64

/-- Zero with the sign of positive numbers. -/
def zero : Binary64 := ⟨0⟩

/-- Zero with the sign of negative numbers. -/
def negativeZero : Binary64 := ⟨0x8000000000000000⟩

theorem value?_negativeZero : negativeZero.value? = zero.value? := by
  have units : negativeZero.units = zero.units := by decide
  have finite : negativeZero.isFinite = zero.isFinite := by decide
  rw [value?, value?, toRat_eq_units, toRat_eq_units, units, finite]

end Binary64

namespace Condition

section AnyEngine

variable [Engine]

/-- **Numbers are compared by their exact values.** An attribute and an expected value that are
finite numbers are compared as rational numbers: each numeric operator, and equality, says yes
exactly if its relation holds of the exact values, and no otherwise; so exactly one of less, equal
and greater is met, and the others follow. If one of them is a NaN or infinite, none of the five
decides. Numbers count by their exact values alone, in the attributes and in conditions of every
shape; so the two zeros can stand for one another everywhere, although they are different values. -/
theorem numbers_count_by_value :
    (∀ (name : String) (look : String → Option Value) (a e : Binary64) (cache : PatternCache),
      look name = some (.number a) →
      let verdict (o : Operator) : Verdict := (Leaf.evaluate look ⟨name, o, .number e⟩ cache).result
      (a.isFinite = true → e.isFinite = true →
        (verdict .gt = .ofBool (decide (a.toRat > e.toRat)) ∧
          verdict .ge = .ofBool (decide (a.toRat ≥ e.toRat)) ∧
          verdict .lt = .ofBool (decide (a.toRat < e.toRat)) ∧
          verdict .le = .ofBool (decide (a.toRat ≤ e.toRat)) ∧
          verdict .exact = .ofBool (decide (a.toRat = e.toRat))) ∧
        [verdict .lt, verdict .exact, verdict .gt].count .yes = 1 ∧
        verdict .ge = (verdict .lt).not ∧ verdict .le = (verdict .gt).not ∧
        verdict .exact = (verdict .ge).and (verdict .le)) ∧
      (a.isFinite = false ∨ e.isFinite = false →
        ∀ o ∈ [Operator.gt, .ge, .lt, .le, .exact], verdict o = .unknown)) ∧
    (∀ (c d : Condition) (look look' : String → Option Value) (cache : PatternCache),
      c.Corresponds Leaf.Alike d → KnowAlike look look' →
      (c.evaluate look cache).result = (d.evaluate look' cache).result) ∧
    Value.Alike (.number .zero) (.number .negativeZero) ∧
    Value.number .zero ≠ .number .negativeZero := by
  refine ⟨?_, ?_, .numbers Binary64.value?_negativeZero.symm, by decide⟩
  · intro name look a e cache found verdict
    constructor
    · intro finite finite'
      have each (o : Operator) (compares : o.comparesNumbers = true) :
          verdict o = .ofBool (decide (o.Relates a.toRat e.toRat)) :=
        Leaf.result_evaluate_finite compares found rfl finite finite' cache
      have gt : verdict .gt = .ofBool (decide (a.toRat > e.toRat)) := each .gt rfl
      have ge : verdict .ge = .ofBool (decide (a.toRat ≥ e.toRat)) := each .ge rfl
      have lt : verdict .lt = .ofBool (decide (a.toRat < e.toRat)) := each .lt rfl
      have le : verdict .le = .ofBool (decide (a.toRat ≤ e.toRat)) := each .le rfl
      have eq : verdict .exact = .ofBool (decide (a.toRat = e.toRat)) := each .exact rfl
      refine ⟨⟨gt, ge, lt, le, eq⟩, ?_⟩
      rw [gt, ge, lt, le, eq]
      rcases lt_trichotomy a.toRat e.toRat with less | equal | greater
      · simp [less, less.le, less.ne, less.not_gt, less.not_ge, Verdict.ofBool, Verdict.not,
          Verdict.and]
      · simp [equal, Verdict.ofBool, Verdict.not, Verdict.and]
      · simp [greater, greater.le, greater.ne', greater.not_gt, greater.not_ge, Verdict.ofBool,
          Verdict.not, Verdict.and]
    · intro infinite o member
      have compares : o.comparesNumbers = true := o.comparesNumbers_iff.2 member
      exact Leaf.result_evaluate_infinite compares found rfl infinite cache
  · intro c d look look' cache corresponds sources
    exact corresponds.result_evaluate_eq fun l m alike => alike.result_evaluate sources cache

end AnyEngine

/-- One half and the number after it are told apart, infinity is compared with nothing, and a rule
that bounds a balance by one zero holds of the other as of itself. -/
theorem either_zero_will_do :
    let half : Binary64 := ⟨0x3fe0000000000000⟩
    let next : Binary64 := ⟨0x3fe0000000000001⟩
    let score (x : Binary64) (name : String) : Option Value :=
      if name = "score" then some (.number x) else none
    let verdict (x : Binary64) (o : Operator) : Verdict :=
      (Leaf.evaluate (score x) ⟨"score", o, .number half⟩ .empty).result
    let rule (zero : Binary64) : Condition :=
      .or [.not (.test "score" .ge (.number zero)), .and [.test "score" .exact (.number zero)]]
    (score next "score" = some (.number next) ∧ next.isFinite = true ∧ half.isFinite = true ∧
      verdict next .gt = .ofBool (decide (next.toRat > half.toRat)) ∧
      verdict next .exact = (verdict next .ge).and (verdict next .le) ∧ verdict next .gt = .yes) ∧
    ((Binary64.infinity true).isFinite = false ∧ verdict (.infinity true) .le = .unknown) ∧
    (rule .zero).Corresponds Leaf.Alike (rule .negativeZero) ∧
    KnowAlike (score .negativeZero) (score .zero) ∧
    ((rule .zero).evaluate (score .negativeZero) .empty).result =
      ((rule .negativeZero).evaluate (score .zero) .empty).result := by
  intro half next score verdict rule
  obtain ⟨compared, counted, zeros, -⟩ := numbers_count_by_value
  obtain ⟨decided, -⟩ := compared "score" (score next) next half .empty rfl
  obtain ⟨⟨greater, -⟩, -, -, -, equal⟩ := decided (by decide) (by decide)
  obtain ⟨-, undecided⟩ :=
    compared "score" (score (.infinity true)) (.infinity true) half .empty rfl
  have same : Leaf.Alike ⟨"score", .ge, .number .zero⟩ ⟨"score", .ge, .number .negativeZero⟩ :=
    ⟨rfl, rfl, zeros⟩
  have same' :
      Leaf.Alike ⟨"score", .exact, .number .zero⟩ ⟨"score", .exact, .number .negativeZero⟩ :=
    ⟨rfl, rfl, zeros⟩
  have corresponds : (rule .zero).Corresponds Leaf.Alike (rule .negativeZero) :=
    .or (.cons (.not (.leaf same)) (.cons (.and (.cons (.leaf same') .nil)) .nil))
  have sources : KnowAlike (score .negativeZero) (score .zero) := by
    intro name
    by_cases known : name = "score"
    · simp only [score, known, if_true]
      exact .some (.numbers Binary64.value?_negativeZero)
    · simp only [score, known, if_false]
      exact .none
  exact ⟨⟨rfl, by decide, by decide, greater, equal, by decide +kernel⟩,
    ⟨by decide, undecided (.inl (by decide)) .le (by decide)⟩, corresponds, sources,
    counted _ _ _ _ .empty corresponds sources⟩

end Condition

end Targeting

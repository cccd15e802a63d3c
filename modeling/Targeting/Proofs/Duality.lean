import Targeting.Proofs.Composition

/-!
# Conditions and their duals

The dual of a condition has disjunctions for conjunctions, conjunctions for disjunctions, and
negated leaves. Evaluating it goes through the same leaves in the same order and does the same at
each; only the verdict is the opposite (`Condition.evaluate_dual`). So a negated composite is as good
as the other composite of the negated parts (`Condition.evaluate_or_negated`,
`Condition.evaluate_and_negated`).
-/

set_option autoImplicit false

namespace Targeting

open Evaluation

namespace Condition

mutual

/-- Conjunctions and disjunctions change places, and every leaf is negated. -/
def dual : Condition → Condition
  | and parts => or (duals parts)
  | or parts => and (duals parts)
  | not part => not (dual part)
  | leaf l => not (leaf l)

/-- The duals of several conditions. -/
def duals : List Condition → List Condition
  | [] => []
  | part :: parts => dual part :: duals parts

end

theorem leavesList_negated (parts : List Condition) :
    leavesList (parts.map not) = leavesList parts := by
  induction parts with
  | nil => rfl
  | cons part parts ih => rw [List.map_cons, leavesList, leavesList, leaves, ih]

variable [Engine]

section Evaluated

variable (look : String → Option Value)

-- The lists are gone through with the composites around them, since a composite of the duals joins
-- what each dual does.
mutual

/-- **Evaluating the dual does the same, with the opposite verdict.** -/
theorem evaluate_dual : (c : Condition) → c.dual.evaluate look = opposite (c.evaluate look)
  | and parts => by
    rw [dual]
    exact evaluate_or_duals parts
  | or parts => by
    rw [dual]
    exact evaluate_and_duals parts
  | not part => by rw [dual, evaluate_not, evaluate_not, evaluate_dual part]
  | leaf l => by rw [dual, evaluate_not]

theorem evaluate_or_duals : (parts : List Condition) →
    (or (duals parts)).evaluate look = opposite ((and parts).evaluate look)
  | [] => rfl
  | part :: parts => by
    rw [duals, evaluate_or_cons, evaluate_and_cons, evaluate_dual part, evaluate_or_duals parts,
      opposite_both]

theorem evaluate_and_duals : (parts : List Condition) →
    (and (duals parts)).evaluate look = opposite ((or parts).evaluate look)
  | [] => rfl
  | part :: parts => by
    rw [duals, evaluate_and_cons, evaluate_or_cons, evaluate_dual part, evaluate_and_duals parts,
      opposite_either]

end

theorem evaluate_or_negated (parts : List Condition) :
    (or (parts.map not)).evaluate look = opposite ((and parts).evaluate look) := by
  induction parts with
  | nil => rfl
  | cons part parts ih =>
    rw [List.map_cons, evaluate_or_cons, evaluate_and_cons, evaluate_not, ih, opposite_both]

theorem evaluate_and_negated (parts : List Condition) :
    (and (parts.map not)).evaluate look = opposite ((or parts).evaluate look) := by
  rw [evaluate_or, opposite_opposite]

end Evaluated

/-- **Conjunction and disjunction are mirror images.** For every source and in every state of the
pattern cache, evaluating the dual of a condition gives the negated verdict, makes the same happen,
so that the same names are looked up and the same lines logged, and leaves the same cache. And nobody
can tell a negated conjunction from the disjunction of the negated parts, nor a negated disjunction
from the conjunction of the negated parts. -/
theorem dual_mirrors :
    (∀ (c : Condition) (look : String → Option Value) (cache : PatternCache),
      c.dual.evaluate look cache = (c.evaluate look cache).map .not) ∧
    (∀ parts : List Condition,
      Interchangeable (not (and parts)) (or (parts.map not)) ∧
      Interchangeable (not (or parts)) (and (parts.map not))) := by
  refine ⟨fun c look cache => congrFun (evaluate_dual look c) cache, fun parts => ⟨?_, ?_⟩⟩
  · refine .of_leaves (fun look => (evaluate_or_negated look parts).symm) ?_
    simp only [leaves, leavesList_negated]
  · refine .of_leaves (fun look => (evaluate_and_negated look parts).symm) ?_
    simp only [leaves, leavesList_negated]

end Condition

end Targeting

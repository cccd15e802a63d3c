import Targeting.Condition.Basic

/-!
# Replacing the leaves of a condition

A condition with its leaves replaced has the same composites, and its leaves are the replaced ones in
the same order (`Condition.leaves_mapLeaves`). Two replacements come to the same exactly if they
agree on the leaves that are there (`Condition.mapLeaves_eq_iff`).
-/

set_option autoImplicit false

namespace Targeting.Condition

mutual

/-- The condition with every leaf replaced. -/
def mapLeaves (f : Leaf → Leaf) : Condition → Condition
  | and parts => and (mapLeavesList f parts)
  | or parts => or (mapLeavesList f parts)
  | not part => not (mapLeaves f part)
  | leaf l => leaf (f l)

/-- Conditions with every leaf replaced. -/
def mapLeavesList (f : Leaf → Leaf) : List Condition → List Condition
  | [] => []
  | part :: parts => mapLeaves f part :: mapLeavesList f parts

end

mutual

@[simp] theorem mapLeaves_id : (c : Condition) → c.mapLeaves id = c
  | and parts => by rw [mapLeaves, mapLeavesList_id parts]
  | or parts => by rw [mapLeaves, mapLeavesList_id parts]
  | not part => by rw [mapLeaves, mapLeaves_id part]
  | leaf l => rfl

theorem mapLeavesList_id : (parts : List Condition) → mapLeavesList id parts = parts
  | [] => rfl
  | part :: parts => by rw [mapLeavesList, mapLeaves_id part, mapLeavesList_id parts]

end

variable (f g : Leaf → Leaf)

mutual

theorem mapLeaves_mapLeaves : (c : Condition) → (c.mapLeaves f).mapLeaves g = c.mapLeaves (g ∘ f)
  | and parts => by simp only [mapLeaves, mapLeavesList_mapLeavesList parts]
  | or parts => by simp only [mapLeaves, mapLeavesList_mapLeavesList parts]
  | not part => by simp only [mapLeaves, mapLeaves_mapLeaves part]
  | leaf l => rfl

theorem mapLeavesList_mapLeavesList : (parts : List Condition) →
    mapLeavesList g (mapLeavesList f parts) = mapLeavesList (g ∘ f) parts
  | [] => rfl
  | part :: parts => by
    simp only [mapLeavesList, mapLeaves_mapLeaves part, mapLeavesList_mapLeavesList parts]

end

mutual

theorem leaves_mapLeaves : (c : Condition) → (c.mapLeaves f).leaves = c.leaves.map f
  | and parts => by rw [mapLeaves, leaves, leaves, leavesList_mapLeavesList parts]
  | or parts => by rw [mapLeaves, leaves, leaves, leavesList_mapLeavesList parts]
  | not part => by rw [mapLeaves, leaves, leaves, leaves_mapLeaves part]
  | leaf l => rfl

theorem leavesList_mapLeavesList : (parts : List Condition) →
    leavesList (mapLeavesList f parts) = (leavesList parts).map f
  | [] => rfl
  | part :: parts => by
    rw [mapLeavesList, leavesList, leavesList, List.map_append, leaves_mapLeaves part,
      leavesList_mapLeavesList parts]

end

mutual

/-- **Two replacements come to the same exactly if they agree on the leaves.** -/
theorem mapLeaves_eq_iff : (c : Condition) →
    (c.mapLeaves f = c.mapLeaves g ↔ ∀ l ∈ c.leaves, f l = g l)
  | and parts => by rw [mapLeaves, mapLeaves, leaves, ← mapLeavesList_eq_iff parts, and.injEq]
  | or parts => by rw [mapLeaves, mapLeaves, leaves, ← mapLeavesList_eq_iff parts, or.injEq]
  | not part => by rw [mapLeaves, mapLeaves, leaves, ← mapLeaves_eq_iff part, not.injEq]
  | leaf l => by rw [mapLeaves, mapLeaves, leaves, List.forall_mem_singleton, leaf.injEq]

theorem mapLeavesList_eq_iff : (parts : List Condition) →
    (mapLeavesList f parts = mapLeavesList g parts ↔ ∀ l ∈ leavesList parts, f l = g l)
  | [] => by simp [mapLeavesList, leavesList]
  | part :: parts => by
    rw [mapLeavesList, mapLeavesList, leavesList, List.forall_mem_append, ← mapLeaves_eq_iff part,
      ← mapLeavesList_eq_iff parts, List.cons.injEq]

end

/-- Leaves that are replaced by themselves make up the condition itself. -/
theorem mapLeaves_eq_self_iff (c : Condition) : c.mapLeaves f = c ↔ ∀ l ∈ c.leaves, f l = l := by
  conv => lhs; rhs; rw [← c.mapLeaves_id]
  exact c.mapLeaves_eq_iff f id

end Targeting.Condition

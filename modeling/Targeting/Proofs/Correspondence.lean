import Mathlib.Data.List.Forall2
import Targeting.Proofs.AnyCache

/-!
# Conditions of the same shape

Two conditions correspond when they have the same shape and their leaves are, one by one, related in
a given way. Where related leaves have the same verdict, corresponding conditions have the same
verdict (`Condition.Corresponds.kleene_eq`); the two may be evaluated on different sources and
caches (`Condition.Corresponds.result_evaluate_eq`).
-/

set_option autoImplicit false

namespace Targeting

namespace Condition

/-- The same shape, with related leaves in the same places. -/
inductive Corresponds (R : Leaf → Leaf → Prop) : Condition → Condition → Prop
  | leaf {l m : Leaf} (h : R l m) : Corresponds R (leaf l) (leaf m)
  | not {c d : Condition} (h : Corresponds R c d) : Corresponds R (not c) (not d)
  | and {cs ds : List Condition} (h : List.Forall₂ (Corresponds R) cs ds) :
    Corresponds R (and cs) (and ds)
  | or {cs ds : List Condition} (h : List.Forall₂ (Corresponds R) cs ds) :
    Corresponds R (or cs) (or ds)

namespace Corresponds

variable {R : Leaf → Leaf → Prop}

mutual

/-- The leaves of corresponding conditions are related one by one. -/
theorem leaves : {c d : Condition} → Corresponds R c d → List.Forall₂ R c.leaves d.leaves
  | .and _, _, .and parts => leavesList parts
  | .or _, _, .or parts => leavesList parts
  | .not _, _, .not part => (leaves part :)
  | .leaf _, _, .leaf related => .cons related .nil

theorem leavesList : {cs ds : List Condition} → List.Forall₂ (Corresponds R) cs ds →
    List.Forall₂ R (Condition.leavesList cs) (Condition.leavesList ds)
  | [], _, .nil => .nil
  | _ :: _, _, .cons first rest => List.rel_append (leaves first) (leavesList rest)

end

variable {value value' : Leaf → Verdict}

mutual

/-- If related leaves have the same verdict, so have corresponding conditions. -/
theorem kleene_eq (same : ∀ l m, R l m → value l = value' m) : {c d : Condition} →
    Corresponds R c d → c.kleene value = d.kleene value'
  | .and _, _, h => by
    cases h with
    | and parts => rw [kleene, kleene, kleenes_eq same parts]
  | .or _, _, h => by
    cases h with
    | or parts => rw [kleene, kleene, kleenes_eq same parts]
  | .not _, _, h => by
    cases h with
    | not part => rw [kleene, kleene, kleene_eq same part]
  | .leaf l, _, h => by
    cases h with
    | leaf related => exact same l _ related

theorem kleenes_eq (same : ∀ l m, R l m → value l = value' m) : {cs ds : List Condition} →
    List.Forall₂ (Corresponds R) cs ds → kleenes value cs = kleenes value' ds
  | [], _, h => by
    cases h
    rfl
  | c :: cs, _, h => by
    cases h with
    | cons first rest => rw [kleenes, kleenes, kleene_eq same first, kleenes_eq same rest]

end

variable [Engine]

/-- If related leaves have the same verdict on two sources and two caches, corresponding conditions
are evaluated to the same verdict there. -/
theorem result_evaluate_eq {look look' : String → Option Value} {cache cache' : PatternCache}
    (same : ∀ l m, R l m → (l.evaluate look cache).result = (m.evaluate look' cache').result)
    {c d : Condition} (h : Corresponds R c d) :
    (c.evaluate look cache).result = (d.evaluate look' cache').result := by
  rw [result_eq_kleene_of_leaves, result_eq_kleene_of_leaves, kleene_eq same h]

end Corresponds

end Condition

end Targeting

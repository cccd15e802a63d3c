import Targeting.Evaluation
import Targeting.InternTable

/-!
# Who belongs to an audience

A user belongs to an audience when its condition is known to hold; unknown does not count. Every
decision is logged, so a run over many users leaves a log that explains each of them.
-/

set_option autoImplicit false

namespace Targeting

variable [Engine]

/-- Both caches: shared conditions and compiled patterns. -/
structure Caches where
  conditions : InternTable
  patterns : PatternCache

namespace Caches

/-- Nothing was shared or compiled yet. -/
def empty : Caches := ⟨.empty, .empty⟩

instance : Inhabited Caches := ⟨empty⟩

/-- Forgets everything in both caches. -/
def clear (k : Caches) : Caches := ⟨k.conditions.clear, k.patterns.clear⟩

end Caches

namespace Audience

/-- What the audience's condition says of a user. -/
def evaluate (look : String → Option Value) (a : Audience) (cache : PatternCache) :
    Outcome Verdict :=
  a.conditions.evaluate look cache

/-- Does a user belong to the audience? -/
def isMatch (look : String → Option Value) (a : Audience) (cache : PatternCache) : Outcome Bool :=
  let o := a.evaluate look cache
  ⟨o.result == .yes, o.cache, o.events ++ [.decided a.id a.name o.result]⟩

/-- Which of several users belong to the audience, decided one after the other. -/
def members (a : Audience) : List (String → Option Value) → PatternCache → Outcome (List Bool)
  | [], cache => ⟨[], cache, []⟩
  | look :: rest, cache =>
    let first := a.isMatch look cache
    ((a.members rest first.cache).map (first.result :: ·)).after first.events

/-- A whole run for an audience: its condition is shared once, then every user is decided. -/
def audit (a : Audience) (users : List (String → Option Value)) (k : Caches) :
    List Bool × Caches × List Event :=
  let (_, conditions, events) := k.conditions.intern a.conditions
  let o := a.members users k.patterns
  (o.result, ⟨conditions, o.cache⟩, events ++ o.events)

end Audience

end Targeting

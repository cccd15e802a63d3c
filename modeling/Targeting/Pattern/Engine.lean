/-!
# What is known of patterns

The caches and the evaluator know little of patterns: a text is compiled or refused, and what was
compiled occurs in another text or does not. Both depend on the texts alone. Whatever does this is an
engine; nothing here looks inside one.
-/

set_option autoImplicit false

namespace Targeting

namespace Pattern

/-- Why a pattern cannot be used. -/
inductive Fault where
  /-- The text is no pattern. -/
  | malformed
  /-- The pattern would take up too much room. -/
  | tooBig
deriving DecidableEq, Repr

/-- What an engine says of a text that it refuses. -/
structure Refusal where
  cause : Fault
  /-- The engine's own words. -/
  reason : String
deriving DecidableEq, Repr

end Pattern

/-- An engine for patterns. -/
class Engine where
  /-- A pattern that can be searched for. -/
  Program : Type
  /-- The pattern that a text spells. -/
  compile : String → Except Pattern.Refusal Program
  /-- Does the pattern occur in a text? -/
  occursIn : Program → String → Bool

end Targeting

import Targeting.Pattern.Meaning
import Targeting.Pattern.Parse
import Targeting.Pattern.Search
import Targeting.Pattern.Size

/-!
# Patterns

A text becomes a pattern in three steps: it is read as a tree, the tree is given its meaning, and
the meaning must not take up too much room. Whether a pattern occurs in a text depends on the two
texts alone. So patterns are an engine. It is the one that is run, not the only one: ages of characters
and the classes for breaking text are unknown to it, and the room is an estimate.
-/

set_option autoImplicit false

namespace Targeting

/-- A pattern that can be searched for. -/
structure Pattern where
  program : Pattern.Program
deriving Inhabited

namespace Pattern

/-- The pattern that a text spells. -/
def compile (text : String) : Except Fault Pattern := do
  let tree ← parse text
  let (e, _) ← tree.meaning {}
  if e.isTooBig then throw .tooBig else return ⟨.ofExpr e⟩

/-- Does the pattern occur in a text? -/
def occursIn (p : Pattern) (text : String) : Bool :=
  p.program.occursIn text

/-- The words for a fault. -/
def Fault.reason : Fault → String
  | malformed => "regex parse error"
  | tooBig => "Compiled regex exceeds size limit of 10485760 bytes."

end Pattern

instance : Engine where
  Program := Pattern
  compile text := (Pattern.compile text).mapError fun fault => ⟨fault, fault.reason⟩
  occursIn := Pattern.occursIn

end Targeting

import Targeting.Condition.Display

/-!
# Audiences

A named condition: the users of whom it holds.
-/

set_option autoImplicit false

namespace Targeting

/-- A named group of users. -/
structure Audience where
  id : String
  name : String
  conditions : Condition
deriving DecidableEq, Hashable, Inhabited

/-- An audience as text for people. -/
def Audience.display (a : Audience) : String :=
  "Audience\x7bid='" ++ a.id ++ "', name='" ++ a.name ++ "', conditions=" ++ a.conditions.display ++
    "\x7d"

end Targeting

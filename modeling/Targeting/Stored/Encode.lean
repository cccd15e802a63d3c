import Targeting.Audience.Basic
import Targeting.Json.Basic
import Targeting.Verdict

/-!
# The stored form

Rules are kept as JSON. A composite is an object with one member, named for what it is; a leaf is
the member `attribute` and holds `name`, `match` and `value`; an audience holds `id`, `name` and
`conditions`. Numbers that are not finite have no spelling in JSON and are stored as null.
-/

set_option autoImplicit false

namespace Targeting

/-- A verdict in stored form. -/
def Verdict.toJson (v : Verdict) : Json :=
  .string v.text

/-- An operator in stored form. -/
def Operator.toJson (o : Operator) : Json :=
  .string o.text

/-- A value in stored form. -/
def Value.toJson : Value → Json
  | null => .null
  | flag b => .bool b
  | number x => if h : x.isFinite = true then .number (.real x h) else .null
  | text s => .string s

/-- A leaf in stored form. -/
def Leaf.toJson (l : Leaf) : Json :=
  .object [("name", .string l.name), ("match", l.operator.toJson), ("value", l.value.toJson)]

namespace Condition

mutual

/-- A condition in stored form. -/
def toJson : Condition → Json
  | and xs => .object [("and", .array (listToJson xs))]
  | or xs => .object [("or", .array (listToJson xs))]
  | not x => .object [("not", toJson x)]
  | leaf l => .object [("attribute", l.toJson)]

/-- The parts of a composite in stored form. -/
def listToJson : List Condition → List Json
  | [] => []
  | x :: xs => toJson x :: listToJson xs

end

end Condition

/-- An audience in stored form. -/
def Audience.toJson (a : Audience) : Json :=
  .object [("id", .string a.id), ("name", .string a.name), ("conditions", a.conditions.toJson)]

end Targeting

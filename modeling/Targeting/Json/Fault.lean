import Targeting.Json.Writer
import Targeting.Text.Quoted

/-!
# Why data cannot be read

A text may be no JSON at all (`malformed`); every other fault is JSON of the wrong shape, and says
what was found and what was wanted.
-/

set_option autoImplicit false

namespace Targeting.Json

/-- What was found where something else was wanted. -/
inductive Found where
  | null
  | bool (b : Bool)
  | number (n : Number)
  | string (s : String)
  | sequence
  | map
  /-- The name of an alternative that needs a value beside it. -/
  | bareName
deriving DecidableEq

/-- The words for what was found. -/
def Found.text : Found → String
  | null => "null"
  | bool b => "boolean `" ++ (if b then "true" else "false") ++ "`"
  | number (.int n fits) => "integer `" ++ (Number.int n fits).text ++ "`"
  | number (.real x finite) => "floating point `" ++ (Number.real x finite).text ++ "`"
  | string s => "string " ++ Text.quote s
  | sequence => "sequence"
  | map => "map"
  | bareName => "unit variant"

/-- Why a text or a value cannot be read. -/
inductive Fault where
  /-- The text is no JSON, ends early, goes on, nests too deeply, or holds a number out of range. -/
  | malformed
  /-- Something of another kind than the one wanted. -/
  | wrongType (found : Found) (wanted : String)
  /-- A name that is none of the alternatives. -/
  | unknownName (name : String) (known : List String)
  /-- An alternative is written as an object with one member, and this one has none or several. -/
  | notOneMember
  /-- A field without which there is no value. -/
  | missingField (name : String)
  /-- A field that is there twice. -/
  | repeatedField (name : String)
  /-- A list that stands for fields and ends before a needed one. -/
  | listTooShort (length : Nat) (wanted : String)
  /-- A list that stands for fields and has more items than they. -/
  | listTooLong (length : Nat)
  /-- A list or an object where an attribute value is wanted. -/
  | notScalar
deriving DecidableEq

namespace Fault

/-- The alternatives as words. -/
def alternatives (known : List String) : String :=
  ", ".intercalate (known.map fun name => "`" ++ name ++ "`")

/-- The words for a fault in the shape of the data; a malformed text has none here. -/
def message? : Fault → Option String
  | malformed => none
  | wrongType found wanted => some ("invalid type: " ++ found.text ++ ", expected " ++ wanted)
  | unknownName name known =>
    some ("unknown variant `" ++ name ++ "`, expected one of " ++ alternatives known)
  | notOneMember => some "invalid value: map, expected map with a single key"
  | missingField name => some ("missing field `" ++ name ++ "`")
  | repeatedField name => some ("duplicate field `" ++ name ++ "`")
  | listTooShort length wanted =>
    some ("invalid length " ++ toString length ++ ", expected " ++ wanted)
  | listTooLong length =>
    some ("invalid length " ++ toString length ++ ", expected fewer elements in array")
  | notScalar => some "data did not match any variant of untagged enum AttributeValue"

end Fault

/-- What a JSON value is found to be. -/
def found : Json → Found
  | null => .null
  | bool b => .bool b
  | number n => .number n
  | string s => .string s
  | array _ => .sequence
  | object _ => .map

section Steps

variable {α β : Type}

theorem ok_bind (a : α) (f : α → Except Fault β) : (Except.ok a >>= f) = f a := rfl

/-- A step and what follows it succeed one after the other. -/
theorem bind_eq_ok_iff {x : Except Fault α} {f : α → Except Fault β} {b : β} :
    x >>= f = .ok b ↔ ∃ a, x = .ok a ∧ f a = .ok b := by
  cases x with
  | error fault => exact ⟨nofun, nofun⟩
  | ok a =>
    constructor
    · intro next
      exact ⟨a, rfl, next⟩
    · rintro ⟨_, ⟨⟩, next⟩
      exact next

theorem pure_eq_ok_iff {a b : α} : (pure a : Except Fault α) = .ok b ↔ b = a := by
  constructor
  · rintro ⟨⟩
    rfl
  · rintro rfl
    rfl

end Steps

end Targeting.Json

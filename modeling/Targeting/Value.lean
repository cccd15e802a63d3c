import Targeting.Decimal.Layout

/-!
# Attribute values

What is known of a user under one name: nothing (`null`), a flag, a number or a text. Values are
equal when they are of one kind and hold the same: `beq` decides that, and `hash` agrees with it.
Numbers hold the same when their bits agree, so equality can serve as a key, while comparing numbers
by value is left to the operators.
-/

set_option autoImplicit false

namespace Targeting

/-- The value of an attribute. -/
inductive Value where
  | null
  | flag (b : Bool)
  | number (x : Binary64)
  | text (s : String)
deriving Inhabited

namespace Value

/-- Of one kind, and holding the same? Numbers are taken bit by bit. -/
def beq : Value → Value → Bool
  | null, null => true
  | flag a, flag b => a == b
  | number x, number y => x.bits == y.bits
  | text s, text t => s == t
  | _, _ => false

theorem beq_refl (v : Value) : beq v v = true := by
  cases v <;> simp [beq]

theorem eq_of_beq {v w : Value} (h : beq v w = true) : v = w := by
  cases v with
  | null =>
    cases w with
    | null => rfl
    | _ => simp [beq] at h
  | flag a =>
    cases w with
    | flag b => rw [beq_iff_eq.1 h]
    | _ => simp [beq] at h
  | number x =>
    cases w with
    | number y => rw [(Binary64.eq_iff_bits x y).2 (beq_iff_eq.1 h)]
    | _ => simp [beq] at h
  | text s =>
    cases w with
    | text t => rw [beq_iff_eq.1 h]
    | _ => simp [beq] at h

instance : BEq Value := ⟨beq⟩

instance : LawfulBEq Value where
  rfl := beq_refl _
  eq_of_beq := eq_of_beq

instance : DecidableEq Value := instDecidableEqOfLawfulBEq

/-- A number that equal values share: of the kind, and then of what is held. -/
def hash : Value → UInt64
  | null => 17
  | flag b => mixHash 19 (Hashable.hash b)
  | number x => mixHash 23 (Hashable.hash x.bits)
  | text s => mixHash 29 (Hashable.hash s)

instance : Hashable Value := ⟨hash⟩

/-- The word for a value's kind. -/
def kind : Value → String
  | null => "null"
  | flag _ => "bool"
  | number _ => "number"
  | text _ => "string"

/-- Is nothing known? -/
def isNull : Value → Bool
  | null => true
  | _ => false

/-- The text of a value of that kind. -/
def asText? : Value → Option String
  | text s => some s
  | _ => none

/-- The flag of a value of that kind. -/
def asFlag? : Value → Option Bool
  | flag b => some b
  | _ => none

/-- The number of a value of that kind, if it is finite and so can be compared. -/
def asFinite? : Value → Option Binary64
  | number x => if x.isFinite then some x else none
  | _ => none

/-- The value for people: texts as they are, numbers in plain notation. -/
def display : Value → String
  | null => "null"
  | flag b => if b then "true" else "false"
  | number x => Layout.plain.write x
  | text s => s

/-- The number nearest to an integer. -/
def ofInt (n : Int) : Value :=
  number (.ofInt n)

/-- An optional value, nothing being null. -/
def ofOption : Option Value → Value
  | none => null
  | some v => v

end Value

end Targeting

import Targeting.Binary64.Rounding

/-!
# JSON values

A JSON value as it is read: members of an object stay in the order of the text, repeated names
included. `sorted` gives the form in which a program holds the value: members in the order of their
names, and of members with one name the last.

A number is an integer of 64 bits where its text is one, and otherwise what the reader makes of the
text in floating point, which is always finite.
-/

set_option autoImplicit false

namespace Targeting

/-- A power of two as an integer, by the instance of the core library. -/
abbrev Json.twoPow (n : Nat) : Int :=
  @HPow.hPow Int Nat Int (@instHPow Int Nat instPowNat) 2 n

/-- Can a signed or an unsigned word of 64 bits hold the number? -/
abbrev Json.FitsWord (n : Int) : Prop :=
  -twoPow 63 ≤ n ∧ n < twoPow 64

/-- A JSON number. -/
inductive Json.Number where
  /-- A whole number of 64 bits. -/
  | int (n : Int) (fits : FitsWord n)
  /-- Any other number, in floating point. -/
  | real (x : Binary64) (finite : x.isFinite = true)
deriving DecidableEq

/-- A JSON value. -/
inductive Json where
  | null
  | bool (b : Bool)
  | number (n : Json.Number)
  | string (s : String)
  | array (items : List Json)
  | object (members : List (String × Json))
deriving Inhabited

namespace Json

/-- The value of a number in 64 bits: itself, or the number nearest to an integer. -/
def Number.toBinary64 : Number → Binary64
  | int n _ => .ofInt n
  | real x _ => x

/-- The same for a caller who is ready for numbers that have no value in 64 bits. -/
def Number.toBinary64? : Number → Option Binary64
  | int n _ => some (.ofInt n)
  | real x _ => some x

/-- Puts a member among members sorted by name; it replaces one of the same name. -/
def putMember (name : String) (value : Json) : List (String × Json) → List (String × Json)
  | [] => [(name, value)]
  | (n, v) :: rest =>
    if name < n then (name, value) :: (n, v) :: rest
    else if name = n then (name, value) :: rest
    else (n, v) :: putMember name value rest

/-- Members sorted by name, the last of each name. -/
def sortMembers (members : List (String × Json)) : List (String × Json) :=
  members.foldl (fun sorted m => putMember m.1 m.2 sorted) []

mutual

/-- The value with the members of every object sorted by name, the last of each name. -/
def sorted : Json → Json
  | array items => array (sortedItems items)
  | object members => object (sortMembers (sortedMembers members))
  | scalar => scalar

/-- The items of an array, each sorted. -/
def sortedItems : List Json → List Json
  | [] => []
  | v :: vs => v.sorted :: sortedItems vs

/-- The members of an object in the given order, the value of each sorted. -/
def sortedMembers : List (String × Json) → List (String × Json)
  | [] => []
  | (n, v) :: rest => (n, v.sorted) :: sortedMembers rest

end

/-- The value of the first member with a name. -/
def member? (name : String) : Json → Option Json
  | object members => (members.find? fun m => m.1 == name).map Prod.snd
  | _ => none

end Json

end Targeting

import Targeting.Audience.Basic
import Targeting.Json.Fault
import Targeting.Verdict

/-!
# The shape of stored data

What both ways of reading stored data share, whether they start from a JSON value or from text: the
names of the alternatives and of the fields, what is needed and what may be left out, and the words
for what is wanted.
-/

set_option autoImplicit false

namespace Targeting.Stored

open Json (Fault)

variable {α : Type}

/-- The alternative with a name. -/
def choose (alternatives : List (String × α)) (name : String) : Except Fault α :=
  match alternatives.lookup name with
  | some a => .ok a
  | none => .error (.unknownName name (alternatives.map Prod.fst))

/-- The verdicts by name. -/
def verdicts : List (String × Verdict) :=
  Verdict.every.map fun v => (v.text, v)

/-- The operators by name. -/
def operators : List (String × Operator) :=
  Operator.every.map fun o => (o.text, o)

/-- What a condition can be. -/
inductive Tag where
  | and
  | or
  | not
  | leaf
deriving DecidableEq

/-- The kinds of condition by name. -/
def tags : List (String × Tag) :=
  [("and", .and), ("or", .or), ("not", .not), ("attribute", .leaf)]

/-- The fault of a kind of condition that stands without its parts. -/
def bareTag : Fault :=
  .wrongType .bareName "newtype variant"

/-- What is wanted of an alternative without parts. -/
def unitWanted : String := "unit"

/-- What is wanted where the parts of a composite stand. -/
def listWanted : String := "a sequence"

/-- What is wanted of a name. -/
def stringWanted : String := "a string"

/-- What is wanted where attributes stand. -/
def mapWanted : String := "a map"

/-- What is wanted where one of several alternatives stands, in a JSON value. -/
def choiceWanted : String := "string or map"

/-- What is wanted where the name of an alternative stands, in text. -/
def tagWanted : String := "variant identifier"

/-- The fields of a leaf. -/
inductive LeafField where
  | name
  | operator
  | value
deriving DecidableEq

/-- The field of a leaf with a name; other names are passed over. -/
def LeafField.ofName? : String → Option LeafField
  | "name" => some name
  | "match" => some operator
  | "value" => some value
  | _ => none

/-- What has been read of a leaf. -/
structure LeafDraft where
  name? : Option String := none
  operator? : Option Operator := none
  value? : Option Value := none

namespace LeafDraft

/-- What is wanted where a leaf stands. -/
def wanted : String := "struct UserAttribute"

/-- What is wanted where a leaf stands as a list of its fields. -/
def listWanted : String := "struct UserAttribute with 3 elements"

/-- A field that was read already may not be read again. -/
def check (d : LeafDraft) : LeafField → Except Fault Unit
  | .name => if d.name?.isSome then .error (.repeatedField "name") else .ok ()
  | .operator => if d.operator?.isSome then .error (.repeatedField "match") else .ok ()
  | .value => if d.value?.isSome then .error (.repeatedField "value") else .ok ()

/-- The leaf of a complete draft. A value that is left out is null. -/
def finish (d : LeafDraft) : Except Fault Leaf :=
  match d.name? with
  | none => .error (.missingField "name")
  | some name =>
    match d.operator? with
    | none => .error (.missingField "match")
    | some operator => .ok ⟨name, operator, Value.ofOption d.value?⟩

end LeafDraft

/-- The fields of an audience. -/
inductive AudienceField where
  | id
  | name
  | conditions
deriving DecidableEq

/-- The field of an audience with a name; other names are passed over. -/
def AudienceField.ofName? : String → Option AudienceField
  | "id" => some id
  | "name" => some name
  | "conditions" => some conditions
  | _ => none

/-- What has been read of an audience. -/
structure AudienceDraft where
  id? : Option String := none
  name? : Option String := none
  conditions? : Option Condition := none

namespace AudienceDraft

/-- What is wanted where an audience stands. -/
def wanted : String := "struct Audience"

/-- What is wanted where an audience stands as a list of its fields. -/
def listWanted : String := "struct Audience with 3 elements"

/-- A field that was read already may not be read again. -/
def check (d : AudienceDraft) : AudienceField → Except Fault Unit
  | .id => if d.id?.isSome then .error (.repeatedField "id") else .ok ()
  | .name => if d.name?.isSome then .error (.repeatedField "name") else .ok ()
  | .conditions =>
    if d.conditions?.isSome then .error (.repeatedField "conditions") else .ok ()

/-- The audience of a complete draft. -/
def finish (d : AudienceDraft) : Except Fault Audience :=
  match d.id? with
  | none => .error (.missingField "id")
  | some id =>
    match d.name? with
    | none => .error (.missingField "name")
    | some name =>
      match d.conditions? with
      | none => .error (.missingField "conditions")
      | some conditions => .ok ⟨id, name, conditions⟩

end AudienceDraft

end Targeting.Stored

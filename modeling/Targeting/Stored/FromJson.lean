import Targeting.Json.Writer
import Targeting.Source
import Targeting.Stored.Shape

/-!
# Rules from JSON values

Reading the stored form from a JSON value. The members of an object are visited in the order of
their names, and of members with one name the last counts, so `ofJson` sorts the value first. The
functions before that take members as they come.
-/

set_option autoImplicit false

namespace Targeting.Stored

open Json (Fault)

variable {α : Type}

/-- A string. -/
def stringOf : Json → Except Fault String
  | .string s => .ok s
  | v => .error (.wrongType v.found stringWanted)

/-- One of several named alternatives, as its name or as an object that binds the name to null. -/
def choiceOf (alternatives : List (String × α)) : Json → Except Fault α
  | .string name => choose alternatives name
  | .object [(name, v)] => do
    let a ← choose alternatives name
    match v with
    | .null => return a
    | v => throw (.wrongType v.found unitWanted)
  | .object _ => .error .notOneMember
  | v => .error (.wrongType v.found choiceWanted)

/-- Nothing, if null says so. -/
def nullOf? : Json → Option Value
  | .null => some .null
  | _ => none

/-- A flag. -/
def flagOf? : Json → Option Value
  | .bool b => some (.flag b)
  | _ => none

/-- A number, of integers the nearest one. -/
def numberOf? : Json → Option Value
  | .number n => some (.number n.toBinary64)
  | _ => none

/-- A text. -/
def textOf? : Json → Option Value
  | .string s => some (.text s)
  | _ => none

/-- The kinds of attribute values, in the order in which a reader tries them: no name says which kind
is stored. -/
def valueTrials : List (Json → Option Value) := [nullOf?, flagOf?, numberOf?, textOf?]

/-- An attribute value: what the first trial makes of it that takes it. -/
def valueOf (v : Json) : Except Fault Value :=
  match valueTrials.findSome? (· v) with
  | some a => .ok a
  | none => .error .notScalar

/-- At most one kind takes a JSON value, so the order does not matter; lists and objects are of none. -/
theorem valueOf_eq (v : Json) :
    valueOf v =
      match v with
      | .null => .ok .null
      | .bool b => .ok (.flag b)
      | .number n => .ok (.number n.toBinary64)
      | .string s => .ok (.text s)
      | .array _ => .error .notScalar
      | .object _ => .error .notScalar := by
  cases v <;> rfl

/-- Puts one member of an object into the draft of a leaf. -/
def LeafDraft.putMember (d : LeafDraft) (member : String × Json) : Except Fault LeafDraft :=
  match LeafField.ofName? member.1 with
  | none => .ok d
  | some field => do
    d.check field
    match field with
    | .name => return { d with name? := some (← stringOf member.2) }
    | .operator => return { d with operator? := some (← choiceOf operators member.2) }
    | .value => return { d with value? := some (← valueOf member.2) }

/-- A leaf from the list of its fields. -/
def leafOfItems (items : List Json) : Except Fault Leaf :=
  match items with
  | [] => .error (.listTooShort 0 LeafDraft.listWanted)
  | n :: rest => do
    let name ← stringOf n
    match rest with
    | [] => throw (.listTooShort 1 LeafDraft.listWanted)
    | o :: rest =>
      let operator ← choiceOf operators o
      match rest with
      | [] => return ⟨name, operator, .null⟩
      | v :: rest =>
        let value ← valueOf v
        if rest.isEmpty then return ⟨name, operator, value⟩
        else throw (.listTooLong items.length)

/-- A leaf, as an object or as the list of its fields. -/
def leafOf : Json → Except Fault Leaf
  | .object members => do (← members.foldlM LeafDraft.putMember {}).finish
  | .array items => leafOfItems items
  | v => .error (.wrongType v.found LeafDraft.wanted)

mutual

/-- A condition. -/
def conditionOf : Json → Except Fault Condition
  | .string name => do
    let _ ← choose tags name
    throw bareTag
  | .object [(name, v)] => do
    match ← choose tags name with
    | .and =>
      match v with
      | .array items => return .and (← conditionsOf items)
      | v => throw (.wrongType v.found listWanted)
    | .or =>
      match v with
      | .array items => return .or (← conditionsOf items)
      | v => throw (.wrongType v.found listWanted)
    | .not => return .not (← conditionOf v)
    | .leaf => return .leaf (← leafOf v)
  | .object _ => .error .notOneMember
  | v => .error (.wrongType v.found choiceWanted)

/-- The parts of a composite. -/
def conditionsOf : List Json → Except Fault (List Condition)
  | [] => .ok []
  | v :: vs => do
    let c ← conditionOf v
    return c :: (← conditionsOf vs)

end

/-- Puts one member of an object into the draft of an audience. -/
def AudienceDraft.putMember (d : AudienceDraft) (member : String × Json) :
    Except Fault AudienceDraft :=
  match AudienceField.ofName? member.1 with
  | none => .ok d
  | some field => do
    d.check field
    match field with
    | .id => return { d with id? := some (← stringOf member.2) }
    | .name => return { d with name? := some (← stringOf member.2) }
    | .conditions => return { d with conditions? := some (← conditionOf member.2) }

/-- An audience from the list of its fields. -/
def audienceOfItems (items : List Json) : Except Fault Audience :=
  match items with
  | [] => .error (.listTooShort 0 AudienceDraft.listWanted)
  | i :: rest => do
    let id ← stringOf i
    match rest with
    | [] => throw (.listTooShort 1 AudienceDraft.listWanted)
    | n :: rest =>
      let name ← stringOf n
      match rest with
      | [] => throw (.listTooShort 2 AudienceDraft.listWanted)
      | c :: rest =>
        let conditions ← conditionOf c
        if rest.isEmpty then return ⟨id, name, conditions⟩
        else throw (.listTooLong items.length)

/-- An audience, as an object or as the list of its fields. -/
def audienceOf : Json → Except Fault Audience
  | .object members => do (← members.foldlM AudienceDraft.putMember {}).finish
  | .array items => audienceOfItems items
  | v => .error (.wrongType v.found AudienceDraft.wanted)

/-- Binds the name of a member to its value. -/
def putAttribute (a : Attributes) (member : String × Json) : Except Fault Attributes := do
  return a.insert member.1 (← valueOf member.2)

/-- Attributes, as an object. -/
def attributesOf : Json → Except Fault Attributes
  | .object members => members.foldlM putAttribute .empty
  | v => .error (.wrongType v.found mapWanted)

end Targeting.Stored

namespace Targeting

/-- A verdict from a JSON value. -/
def Verdict.ofJson (v : Json) : Except Json.Fault Verdict :=
  Stored.choiceOf Stored.verdicts v.sorted

/-- An operator from a JSON value. -/
def Operator.ofJson (v : Json) : Except Json.Fault Operator :=
  Stored.choiceOf Stored.operators v.sorted

/-- An attribute value from a JSON value. -/
def Value.ofJson (v : Json) : Except Json.Fault Value :=
  Stored.valueOf v.sorted

/-- A leaf from a JSON value. -/
def Leaf.ofJson (v : Json) : Except Json.Fault Leaf :=
  Stored.leafOf v.sorted

/-- A condition from a JSON value. -/
def Condition.ofJson (v : Json) : Except Json.Fault Condition :=
  Stored.conditionOf v.sorted

/-- An audience from a JSON value. -/
def Audience.ofJson (v : Json) : Except Json.Fault Audience :=
  Stored.audienceOf v.sorted

/-- Attributes from a JSON value. -/
def Attributes.ofJson (v : Json) : Except Json.Fault Attributes :=
  Stored.attributesOf v.sorted

/-- What JSON holds that attributes cannot. -/
inductive Unsupported where
  | array
  | object
  /-- A number without a value in 64 bits. -/
  | outOfRange (n : Json.Number)
deriving DecidableEq

namespace Unsupported

/-- Why no attribute can hold it. -/
def reason : Unsupported → String
  | array => "arrays are not attribute values"
  | object => "objects are not attribute values"
  | outOfRange n => "number out of range: " ++ n.text

/-- The words for JSON that no attribute can hold. -/
def message (u : Unsupported) : String :=
  "Unsupported attribute value: " ++ u.reason

end Unsupported

/-- An attribute value that holds what a JSON value holds, if that is a plain value. -/
def Value.convert : Json → Except Unsupported Value
  | .null => .ok .null
  | .bool b => .ok (.flag b)
  | .number n =>
    match n.toBinary64? with
    | some x => .ok (.number x)
    | none => .error (.outOfRange n)
  | .string s => .ok (.text s)
  | .array _ => .error .array
  | .object _ => .error .object

end Targeting

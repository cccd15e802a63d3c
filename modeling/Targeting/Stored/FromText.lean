import Targeting.Json.Reader
import Targeting.Stored.FromJson

/-!
# Rules from text

Reading the stored form straight from JSON text. The tokens are taken in the order of the text, so
the first fault in the text is the one reported, a field may come only once, and what belongs to no
field is passed over unread. Every open bracket or brace counts against the nesting limit, except in
what is passed over.
-/

set_option autoImplicit false

namespace Targeting.Stored

open Json (Fault Reader Token)

variable {α : Type}

/-- One of several named alternatives, as its name or as an object that binds the name to null. -/
def readChoice (alternatives : List (String × α)) : Nat → Reader α
  | _, .string (some name) :: ts => do return (← choose alternatives name, ts)
  | _ + 1, .openBrace :: ts => do
    let (name, ts) ← Reader.string tagWanted ts
    let a ← choose alternatives name
    match ← Reader.colon ts with
    | .null :: .closeBrace :: ts => return (a, ts)
    | .null :: _ => throw .malformed
    | ts => throw (Reader.wrongType unitWanted ts)
  | _, _ => .error .malformed

/-- An attribute value. -/
def readValue (depth : Nat) : Reader Value := fun ts => do
  let (v, ts) ← Json.ofTokens depth ts
  return (← valueOf v, ts)

/-- Is there another item of a list? At the end the closing bracket is left. -/
def nextItem? (first : Bool) : List Token → Except Fault (Option (List Token))
  | .closeBracket :: _ => .ok none
  | .comma :: .closeBracket :: _ => .error .malformed
  | .comma :: ts => if first then .error .malformed else .ok (some ts)
  | ts => if first then .ok (some ts) else .error .malformed

/-- The closing bracket of a list. -/
def closeList : List Token → Except Fault (List Token)
  | .closeBracket :: ts => .ok ts
  | _ => .error .malformed

/-- Reads one member of an object into the draft of a leaf, from behind its name. -/
def LeafDraft.readMember (depth : Nat) (d : LeafDraft) (name : String) : Reader LeafDraft :=
  fun ts => do
    match LeafField.ofName? name with
    | none =>
      let ((), ts) ← Json.skipValue (← Reader.colon ts)
      return (d, ts)
    | some field =>
      d.check field
      let ts ← Reader.colon ts
      match field with
      | .name =>
        let (s, ts) ← Reader.string stringWanted ts
        return ({ d with name? := some s }, ts)
      | .operator =>
        let (o, ts) ← readChoice operators depth ts
        return ({ d with operator? := some o }, ts)
      | .value =>
        let (v, ts) ← readValue depth ts
        return ({ d with value? := some v }, ts)

/-- A leaf from the list of its fields, from behind the opening bracket. -/
def readLeafItems (depth : Nat) : Reader Leaf := fun ts => do
  match ← nextItem? true ts with
  | none => throw (.listTooShort 0 LeafDraft.listWanted)
  | some ts =>
    let (name, ts) ← Reader.string stringWanted ts
    match ← nextItem? false ts with
    | none => throw (.listTooShort 1 LeafDraft.listWanted)
    | some ts =>
      let (operator, ts) ← readChoice operators depth ts
      match ← nextItem? false ts with
      | none => return (⟨name, operator, .null⟩, ← closeList ts)
      | some ts =>
        let (value, ts) ← readValue depth ts
        return (⟨name, operator, value⟩, ← closeList ts)

/-- A leaf, as an object or as the list of its fields. -/
def readLeaf : Nat → Reader Leaf
  | depth + 1, .openBrace :: ts => do
    let (d, ts) ← Reader.object (LeafDraft.readMember depth) {} ts
    return (← d.finish, ts)
  | depth + 1, .openBracket :: ts => readLeafItems depth ts
  | 0, .openBrace :: _ => .error .malformed
  | 0, .openBracket :: _ => .error .malformed
  | _, ts => .error (Reader.wrongType LeafDraft.wanted ts)

mutual

/-- A condition. -/
def readCondition : Nat → Reader Condition
  | _, .string (some name) :: _ => do
    let _ ← choose tags name
    throw bareTag
  | depth + 1, .openBrace :: ts => do
    let (name, ts) ← Reader.string tagWanted ts
    let tag ← choose tags name
    let ts ← Reader.colon ts
    let (c, ts) ←
      match tag with
      | .and => do
        let (cs, ts) ← readParts depth ts
        pure (.and cs, ts)
      | .or => do
        let (cs, ts) ← readParts depth ts
        pure (.or cs, ts)
      | .not => do
        let (c, ts) ← readCondition depth ts
        pure (.not c, ts)
      | .leaf => do
        let (l, ts) ← readLeaf depth ts
        pure (.leaf l, ts)
    match ts with
    | .closeBrace :: ts => return (c, ts)
    | _ => throw .malformed
  | _, _ => .error .malformed

/-- The parts of a composite. -/
def readParts : Nat → Reader (List Condition)
  | depth + 1, .openBracket :: ts => Reader.list (readCondition depth) ts
  | 0, .openBracket :: _ => .error .malformed
  | _, ts => .error (Reader.wrongType listWanted ts)

end

/-- Reads one member of an object into the draft of an audience, from behind its name. -/
def AudienceDraft.readMember (depth : Nat) (d : AudienceDraft) (name : String) :
    Reader AudienceDraft :=
  fun ts => do
    match AudienceField.ofName? name with
    | none =>
      let ((), ts) ← Json.skipValue (← Reader.colon ts)
      return (d, ts)
    | some field =>
      d.check field
      let ts ← Reader.colon ts
      match field with
      | .id =>
        let (s, ts) ← Reader.string stringWanted ts
        return ({ d with id? := some s }, ts)
      | .name =>
        let (s, ts) ← Reader.string stringWanted ts
        return ({ d with name? := some s }, ts)
      | .conditions =>
        let (c, ts) ← readCondition depth ts
        return ({ d with conditions? := some c }, ts)

/-- An audience from the list of its fields, from behind the opening bracket. -/
def readAudienceItems (depth : Nat) : Reader Audience := fun ts => do
  match ← nextItem? true ts with
  | none => throw (.listTooShort 0 AudienceDraft.listWanted)
  | some ts =>
    let (id, ts) ← Reader.string stringWanted ts
    match ← nextItem? false ts with
    | none => throw (.listTooShort 1 AudienceDraft.listWanted)
    | some ts =>
      let (name, ts) ← Reader.string stringWanted ts
      match ← nextItem? false ts with
      | none => throw (.listTooShort 2 AudienceDraft.listWanted)
      | some ts =>
        let (conditions, ts) ← readCondition depth ts
        return (⟨id, name, conditions⟩, ← closeList ts)

/-- An audience, as an object or as the list of its fields. -/
def readAudience : Nat → Reader Audience
  | depth + 1, .openBrace :: ts => do
    let (d, ts) ← Reader.object (AudienceDraft.readMember depth) {} ts
    return (← d.finish, ts)
  | depth + 1, .openBracket :: ts => readAudienceItems depth ts
  | 0, .openBrace :: _ => .error .malformed
  | 0, .openBracket :: _ => .error .malformed
  | _, ts => .error (Reader.wrongType AudienceDraft.wanted ts)

/-- Binds the name of a member to its value, which is read from behind the name. -/
def readAttribute (depth : Nat) (a : Attributes) (name : String) : Reader Attributes := fun ts => do
  let (v, ts) ← readValue depth (← Reader.colon ts)
  return (a.insert name v, ts)

/-- Attributes, as an object. -/
def readAttributes : Nat → Reader Attributes
  | depth + 1, .openBrace :: ts => Reader.object (readAttribute depth) .empty ts
  | 0, .openBrace :: _ => .error .malformed
  | _, ts => .error (Reader.wrongType mapWanted ts)

end Targeting.Stored

namespace Targeting

open Json (Reader nestingLimit)

/-- A verdict from JSON text. -/
def Verdict.ofText : String → Except Json.Fault Verdict :=
  Reader.complete (Stored.readChoice Stored.verdicts nestingLimit)

/-- An operator from JSON text. -/
def Operator.ofText : String → Except Json.Fault Operator :=
  Reader.complete (Stored.readChoice Stored.operators nestingLimit)

/-- An attribute value from JSON text. -/
def Value.ofText : String → Except Json.Fault Value :=
  Reader.complete (Stored.readValue nestingLimit)

/-- A leaf from JSON text. -/
def Leaf.ofText : String → Except Json.Fault Leaf :=
  Reader.complete (Stored.readLeaf nestingLimit)

/-- A condition from JSON text. -/
def Condition.ofText : String → Except Json.Fault Condition :=
  Reader.complete (Stored.readCondition nestingLimit)

/-- An audience from JSON text. -/
def Audience.ofText : String → Except Json.Fault Audience :=
  Reader.complete (Stored.readAudience nestingLimit)

/-- Attributes from JSON text. -/
def Attributes.ofText : String → Except Json.Fault Attributes :=
  Reader.complete (Stored.readAttributes nestingLimit)

end Targeting

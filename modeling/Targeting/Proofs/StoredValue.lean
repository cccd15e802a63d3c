import Targeting.Proofs.LeafMaps
import Targeting.Stored.Encode
import Targeting.Stored.FromJson

/-!
# Stored rules read back from JSON values

JSON has no spelling for a number that is not finite, so such a value is stored as null
(`Value.stored`); nothing else is lost. Reading the stored form of a rule from the JSON value gives
the rule with those values replaced (`Stored.conditionOf_toJson`), which is the rule itself if all
its numbers are finite (`Condition.stored_eq_self_iff`).
-/

set_option autoImplicit false

namespace Targeting

/-- No infinity and no NaN. -/
def Value.Finite : Value → Prop
  | number x => x.isFinite = true
  | _ => True

/-- What is left of a value when it is stored: a number that is not finite becomes null. -/
def Value.stored : Value → Value
  | number x => if x.isFinite then number x else null
  | v => v

/-- What is left of a leaf when it is stored. -/
def Leaf.stored (l : Leaf) : Leaf :=
  { l with value := l.value.stored }

/-- What is left of a condition when it is stored. -/
def Condition.stored (c : Condition) : Condition :=
  c.mapLeaves Leaf.stored

/-- What is left of an audience when it is stored. -/
def Audience.stored (a : Audience) : Audience :=
  { a with conditions := a.conditions.stored }

theorem Value.stored_eq_self_iff (v : Value) : v.stored = v ↔ v.Finite := by
  cases v with
  | number x =>
    simp only [stored, Finite]
    split <;> simp_all
  | null => simp [stored, Finite]
  | flag b => simp [stored, Finite]
  | text s => simp [stored, Finite]

theorem Leaf.stored_eq_self_iff (l : Leaf) : l.stored = l ↔ l.value.Finite := by
  rw [← l.value.stored_eq_self_iff]
  constructor
  · intro same
    exact congrArg Leaf.value same
  · intro same
    rw [stored, same]

/-- **A rule is kept as it is if and only if all its numbers are finite.** -/
theorem Condition.stored_eq_self_iff (c : Condition) :
    c.stored = c ↔ ∀ l ∈ c.leaves, l.value.Finite := by
  rw [stored, mapLeaves_eq_self_iff]
  simp only [Leaf.stored_eq_self_iff]

namespace Json

/-- A single member is in order. -/
theorem sorted_single (name : String) (v : Json) :
    (object [(name, v)]).sorted = object [(name, v.sorted)] := by
  simp [sorted, sortedMembers, sortMembers, putMember]

end Json

@[simp] theorem Operator.sorted_toJson (o : Operator) : o.toJson.sorted = o.toJson := rfl

@[simp] theorem Value.sorted_toJson (v : Value) : v.toJson.sorted = v.toJson := by
  cases v with
  | number x =>
    rw [toJson]
    split <;> rfl
  | null => rfl
  | flag b => rfl
  | text s => rfl

/-- The members of a stored leaf in the order of their names. -/
theorem Leaf.sorted_toJson (l : Leaf) :
    l.toJson.sorted =
      .object [("match", l.operator.toJson), ("name", .string l.name), ("value", l.value.toJson)] := by
  have matchName : "match" < "name" := by decide
  have valueName : ¬"value" < "name" := by decide
  have valueMatch : ¬"value" < "match" := by decide
  simp [toJson, Json.sorted, Json.sortedMembers, Json.sortMembers, Json.putMember, matchName,
    valueName, valueMatch]

theorem Audience.sorted_toJson (a : Audience) :
    a.toJson.sorted =
      .object [("conditions", a.conditions.toJson.sorted), ("id", .string a.id),
        ("name", .string a.name)] := by
  have nameId : ¬"name" < "id" := by decide
  have conditionsId : "conditions" < "id" := by decide
  simp [toJson, Json.sorted, Json.sortedMembers, Json.sortMembers, Json.putMember, nameId,
    conditionsId]

namespace Stored

theorem choiceOf_operator (o : Operator) : choiceOf operators o.toJson = .ok o := by
  cases o <;> rfl

theorem valueOf_toJson (v : Value) : valueOf v.toJson = .ok v.stored := by
  cases v with
  | number x =>
    simp only [Value.toJson, Value.stored]
    split <;> rfl
  | null => rfl
  | flag b => rfl
  | text s => rfl

namespace LeafDraft

variable {d : LeafDraft}

theorem putMember_name (fresh : d.name? = none) (s : String) :
    d.putMember ("name", .string s) = .ok { d with name? := some s } := by
  have field : LeafField.ofName? "name" = some .name := rfl
  simp only [putMember, field, check, fresh, bind, Except.bind]
  rfl

theorem putMember_operator (fresh : d.operator? = none) {v : Json} {o : Operator}
    (read : choiceOf operators v = .ok o) :
    d.putMember ("match", v) = .ok { d with operator? := some o } := by
  have field : LeafField.ofName? "match" = some .operator := rfl
  simp only [putMember, field, check, fresh, read, bind, Except.bind]
  rfl

theorem putMember_value (fresh : d.value? = none) {v : Json} {a : Value}
    (read : valueOf v = .ok a) : d.putMember ("value", v) = .ok { d with value? := some a } := by
  have field : LeafField.ofName? "value" = some .value := rfl
  simp only [putMember, field, check, fresh, read, bind, Except.bind]
  rfl

end LeafDraft

/-- A stored leaf is read with its fields in the order of their names. -/
theorem leafOf_toJson (l : Leaf) : leafOf l.toJson.sorted = .ok l.stored := by
  have operator := choiceOf_operator l.operator
  have value := valueOf_toJson l.value
  have first := LeafDraft.putMember_operator (d := {}) rfl operator
  have second := LeafDraft.putMember_name (d := { operator? := some l.operator }) rfl l.name
  have third := LeafDraft.putMember_value
    (d := { name? := some l.name, operator? := some l.operator }) rfl value
  rw [l.sorted_toJson, leafOf]
  simp only [List.foldlM_cons, first, second, third, bind, Except.bind]
  rfl

theorem conditionOf_and {items : List Json} {cs : List Condition}
    (parts : conditionsOf items = .ok cs) :
    conditionOf (.object [("and", .array items)]) = .ok (.and cs) := by
  have tag : choose tags "and" = .ok .and := rfl
  unfold conditionOf
  simp only [tag, parts, bind, Except.bind]
  rfl

theorem conditionOf_or {items : List Json} {cs : List Condition}
    (parts : conditionsOf items = .ok cs) :
    conditionOf (.object [("or", .array items)]) = .ok (.or cs) := by
  have tag : choose tags "or" = .ok .or := rfl
  unfold conditionOf
  simp only [tag, parts, bind, Except.bind]
  rfl

theorem conditionOf_not {v : Json} {c : Condition} (part : conditionOf v = .ok c) :
    conditionOf (.object [("not", v)]) = .ok (.not c) := by
  have tag : choose tags "not" = .ok .not := rfl
  unfold conditionOf
  simp only [tag, part, bind, Except.bind]
  rfl

theorem conditionOf_leaf {v : Json} {l : Leaf} (test : leafOf v = .ok l) :
    conditionOf (.object [("attribute", v)]) = .ok (.leaf l) := by
  have tag : choose tags "attribute" = .ok .leaf := rfl
  unfold conditionOf
  simp only [tag, test, bind, Except.bind]
  rfl

mutual

/-- **A stored condition is read as what is left of the condition.** -/
theorem conditionOf_toJson : (c : Condition) → conditionOf c.toJson.sorted = .ok c.stored
  | .and xs => by
    rw [Condition.toJson, Json.sorted_single, Json.sorted]
    exact conditionOf_and (conditionsOf_toJson xs)
  | .or xs => by
    rw [Condition.toJson, Json.sorted_single, Json.sorted]
    exact conditionOf_or (conditionsOf_toJson xs)
  | .not x => by
    rw [Condition.toJson, Json.sorted_single]
    exact conditionOf_not (conditionOf_toJson x)
  | .leaf l => by
    rw [Condition.toJson, Json.sorted_single]
    exact conditionOf_leaf (leafOf_toJson l)

theorem conditionsOf_toJson : (xs : List Condition) →
    conditionsOf (Json.sortedItems (Condition.listToJson xs)) =
      .ok (Condition.mapLeavesList Leaf.stored xs)
  | [] => rfl
  | x :: xs => by
    have first := conditionOf_toJson x
    have others := conditionsOf_toJson xs
    rw [Condition.listToJson, Json.sortedItems, conditionsOf, first, Condition.mapLeavesList]
    simp only [others, bind, Except.bind]
    rfl

end

namespace AudienceDraft

variable {d : AudienceDraft}

theorem putMember_id (fresh : d.id? = none) (s : String) :
    d.putMember ("id", .string s) = .ok { d with id? := some s } := by
  have field : AudienceField.ofName? "id" = some .id := rfl
  simp only [putMember, field, check, fresh, bind, Except.bind]
  rfl

theorem putMember_name (fresh : d.name? = none) (s : String) :
    d.putMember ("name", .string s) = .ok { d with name? := some s } := by
  have field : AudienceField.ofName? "name" = some .name := rfl
  simp only [putMember, field, check, fresh, bind, Except.bind]
  rfl

theorem putMember_conditions (fresh : d.conditions? = none) {v : Json} {c : Condition}
    (read : conditionOf v = .ok c) :
    d.putMember ("conditions", v) = .ok { d with conditions? := some c } := by
  have field : AudienceField.ofName? "conditions" = some .conditions := rfl
  simp only [putMember, field, check, fresh, read, bind, Except.bind]
  rfl

end AudienceDraft

/-- A stored audience is read with its fields in the order of their names. -/
theorem audienceOf_toJson (a : Audience) : audienceOf a.toJson.sorted = .ok a.stored := by
  have conditions := conditionOf_toJson a.conditions
  have first := AudienceDraft.putMember_conditions (d := {}) rfl conditions
  have second := AudienceDraft.putMember_id
    (d := { conditions? := some a.conditions.stored }) rfl a.id
  have third := AudienceDraft.putMember_name
    (d := { id? := some a.id, conditions? := some a.conditions.stored }) rfl a.name
  rw [a.sorted_toJson, audienceOf]
  simp only [List.foldlM_cons, first, second, third, bind, Except.bind]
  rfl

end Stored

end Targeting

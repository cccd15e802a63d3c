import Targeting.Proofs.Members
import Targeting.Proofs.Rounding
import Targeting.Proofs.StoredValue

/-!
# The grammar of stored rules

What a JSON value must be to stand for a rule is said by inductive predicates, one constructor for
each spelling. A value is read as a condition if and only if it is one by the grammar, and what is
read is the tree of the grammar (`Stored.condition_grammar`).

The predicates speak of what the names of an object are bound to, so they do not see in which order
the members stand (`Stored.isCondition_sorted_iff`). Readers go through the members one by one; the
two views meet on values in which no object repeats a name (`Stored.conditionOf_eq_ok_iff`).
-/

set_option autoImplicit false

namespace Targeting.Stored

open Json (Fault Sole bound?)

variable {v : Json} {members : List (String × Json)}

/-- Plain values stand for attribute values. -/
inductive IsScalar : Json → Value → Prop
  | null : IsScalar .null .null
  | bool (b : Bool) : IsScalar (.bool b) (.flag b)
  | number (n : Json.Number) : IsScalar (.number n) (.number n.toBinary64)
  | string (s : String) : IsScalar (.string s) (.text s)

/-- The word of an operator, or an object that binds the word alone, and to null. -/
inductive IsOperator : Json → Operator → Prop
  | word (o : Operator) : IsOperator (.string o.text) o
  | object {members : List (String × Json)} {o : Operator} (sole : Sole o.text .null members) :
    IsOperator (.object members) o

/-- What may be left out is null then. -/
def IsOptional : Option Json → Value → Prop
  | none, value => value = .null
  | some v, value => IsScalar v value

/-- The fields of a leaf by name, whatever else the object binds, or in a list. -/
inductive IsLeaf : Json → Leaf → Prop
  | object {members : List (String × Json)} {name : String} {v : Json} {o : Operator}
    {value : Value} (named : bound? "name" members = some (.string name))
    (matched : bound? "match" members = some v) (operator : IsOperator v o)
    (expected : IsOptional (bound? "value" members) value) :
    IsLeaf (.object members) ⟨name, o, value⟩
  | pair {name : String} {v : Json} {o : Operator} (operator : IsOperator v o) :
    IsLeaf (.array [.string name, v]) ⟨name, o, .null⟩
  | triple {name : String} {v w : Json} {o : Operator} {value : Value} (operator : IsOperator v o)
    (expected : IsScalar w value) : IsLeaf (.array [.string name, v, w]) ⟨name, o, value⟩

mutual

/-- An object that binds one word, which says what the condition is. -/
inductive IsCondition : Json → Condition → Prop
  | and {members : List (String × Json)} {items : List Json} {parts : List Condition}
    (sole : Sole "and" (.array items) members) (each : AreConditions items parts) :
    IsCondition (.object members) (.and parts)
  | or {members : List (String × Json)} {items : List Json} {parts : List Condition}
    (sole : Sole "or" (.array items) members) (each : AreConditions items parts) :
    IsCondition (.object members) (.or parts)
  | not {members : List (String × Json)} {v : Json} {part : Condition}
    (sole : Sole "not" v members) (inner : IsCondition v part) :
    IsCondition (.object members) (.not part)
  | leaf {members : List (String × Json)} {v : Json} {l : Leaf}
    (sole : Sole "attribute" v members) (test : IsLeaf v l) :
    IsCondition (.object members) (.leaf l)

/-- As many items as conditions, in the same order. -/
inductive AreConditions : List Json → List Condition → Prop
  | nil : AreConditions [] []
  | cons {v : Json} {c : Condition} {items : List Json} {parts : List Condition}
    (first : IsCondition v c) (others : AreConditions items parts) :
    AreConditions (v :: items) (c :: parts)

end

/-- The fields of an audience by name, whatever else the object binds, or in a list. -/
inductive IsAudience : Json → Audience → Prop
  | object {members : List (String × Json)} {id name : String} {v : Json} {c : Condition}
    (identified : bound? "id" members = some (.string id))
    (named : bound? "name" members = some (.string name))
    (conditions : bound? "conditions" members = some v) (rule : IsCondition v c) :
    IsAudience (.object members) ⟨id, name, c⟩
  | triple {id name : String} {v : Json} {c : Condition} (rule : IsCondition v c) :
    IsAudience (.array [.string id, .string name, v]) ⟨id, name, c⟩

/-- An object binds every name to a plain value or not at all. -/
inductive IsTable : Json → (String → Option Value) → Prop
  | object {members : List (String × Json)} {find : String → Option Value}
    (each : ∀ name, Option.Rel IsScalar (bound? name members) (find name)) :
    IsTable (.object members) find

/-! ## The grammar does not see the order of members -/

/-- A field of an object is there under its name, whatever it stands for. -/
theorem exists_sorted_iff {α : Type} {R : Json → α → Prop}
    (sorted : ∀ v a, R v.sorted a ↔ R v a) (found : Option Json) (a : α) :
    (∃ v, found.map Json.sorted = some v ∧ R v a) ↔ ∃ v, found = some v ∧ R v a := by
  cases found with
  | none => exact ⟨nofun, nofun⟩
  | some v => simp [sorted]

theorem isScalar_sorted_iff (v : Json) (value : Value) :
    IsScalar v.sorted value ↔ IsScalar v value := by
  cases v with
  | array items => exact ⟨nofun, nofun⟩
  | object members => exact ⟨nofun, nofun⟩
  | null => rfl
  | bool b => rfl
  | number n => rfl
  | string s => rfl

theorem isOptional_sorted_iff (found : Option Json) (value : Value) :
    IsOptional (found.map Json.sorted) value ↔ IsOptional found value := by
  cases found with
  | none => rfl
  | some v => exact isScalar_sorted_iff v value

theorem isOperator_object_iff (o : Operator) :
    IsOperator (.object members) o ↔ Sole o.text .null members := by
  constructor
  · rintro ⟨⟩
    assumption
  · exact .object

theorem isOperator_sorted_iff (v : Json) (o : Operator) :
    IsOperator v.sorted o ↔ IsOperator v o := by
  cases v with
  | array items => exact ⟨nofun, nofun⟩
  | object members =>
    rw [Json.sorted, isOperator_object_iff, isOperator_object_iff, Json.sole_sorted_iff]
    simp only [Json.sorted_eq_null_iff, exists_eq_right]
  | null => rfl
  | bool b => rfl
  | number n => rfl
  | string s => rfl

/-! ### Leaves -/

/-- What stands for the name, the operator and the value of a leaf. -/
def LeafFields (name? operator? value? : Option Json) (l : Leaf) : Prop :=
  name? = some (.string l.name) ∧ (∃ v, operator? = some v ∧ IsOperator v l.operator) ∧
    IsOptional value? l.value

theorem leafFields_sorted_iff (name? operator? value? : Option Json) (l : Leaf) :
    LeafFields (name?.map Json.sorted) (operator?.map Json.sorted) (value?.map Json.sorted) l ↔
      LeafFields name? operator? value? l := by
  rw [LeafFields, Json.map_sorted_eq_string_iff, exists_sorted_iff isOperator_sorted_iff,
    isOptional_sorted_iff, LeafFields]

theorem isLeaf_object_iff (l : Leaf) :
    IsLeaf (.object members) l ↔
      LeafFields (bound? "name" members) (bound? "match" members) (bound? "value" members) l := by
  constructor
  · intro leaf
    cases leaf with
    | object named matched operator expected => exact ⟨named, ⟨_, matched, operator⟩, expected⟩
  · rintro ⟨named, ⟨v, matched, operator⟩, expected⟩
    exact .object named matched operator expected

theorem isLeaf_array_iff (items : List Json) (l : Leaf) :
    IsLeaf (.array items) l ↔ items.length ≤ 3 ∧ LeafFields items[0]? items[1]? items[2]? l := by
  constructor
  · intro leaf
    cases leaf with
    | pair operator => exact ⟨Nat.le_succ 2, rfl, ⟨_, rfl, operator⟩, rfl⟩
    | triple operator expected => exact ⟨Nat.le_refl 3, rfl, ⟨_, rfl, operator⟩, expected⟩
  · rintro ⟨short, named, ⟨v, matched, operator⟩, expected⟩
    obtain ⟨name, o, value⟩ := l
    match items with
    | [] => cases named
    | [_] => cases matched
    | [_, _] =>
      cases named
      cases matched
      cases expected
      exact .pair operator
    | [_, _, _] =>
      cases named
      cases matched
      exact .triple operator expected
    | _ :: _ :: _ :: _ :: _ =>
      simp only [List.length_cons] at short
      omega

theorem isLeaf_sorted_iff (v : Json) (l : Leaf) : IsLeaf v.sorted l ↔ IsLeaf v l := by
  cases v with
  | array items =>
    rw [Json.sorted, isLeaf_array_iff, isLeaf_array_iff, Json.length_sortedItems]
    simp only [Json.getElem?_sortedItems, leafFields_sorted_iff]
  | object members =>
    rw [Json.sorted, isLeaf_object_iff, isLeaf_object_iff]
    simp only [Json.bound?_sorted, leafFields_sorted_iff]
  | null => rfl
  | bool b => rfl
  | number n => rfl
  | string s => rfl

/-! ### Conditions -/

/-- An object that binds one word, and to a value with a property. -/
def Tagged (word : String) (P : Json → Prop) (v : Json) : Prop :=
  ∃ members inner, v = .object members ∧ Sole word inner members ∧ P inner

theorem tagged_sorted_iff {word : String} {P : Json → Prop} (sorted : ∀ v, P v.sorted ↔ P v)
    (v : Json) : Tagged word P v.sorted ↔ Tagged word P v := by
  constructor
  · rintro ⟨members, inner, same, sole, holds⟩
    obtain ⟨raw, rfl, rfl⟩ := Json.sorted_eq_object_iff.1 same
    obtain ⟨bare, alone, rfl⟩ := Json.sole_sorted_iff.1 sole
    exact ⟨raw, bare, rfl, alone, (sorted bare).1 holds⟩
  · rintro ⟨members, inner, rfl, sole, holds⟩
    have alone := Json.sole_sorted_iff.2 ⟨inner, sole, rfl⟩
    exact ⟨_, inner.sorted, rfl, alone, (sorted inner).2 holds⟩

/-- A list of as many items as conditions, in the same order. -/
def IsList (parts : List Condition) (v : Json) : Prop :=
  ∃ items, v = .array items ∧ AreConditions items parts

theorem isCondition_and_iff (v : Json) (parts : List Condition) :
    IsCondition v (.and parts) ↔ Tagged "and" (IsList parts) v := by
  constructor
  · intro condition
    cases condition with
    | and sole each => exact ⟨_, _, rfl, sole, _, rfl, each⟩
  · rintro ⟨members, _, rfl, sole, items, rfl, each⟩
    exact .and sole each

theorem isCondition_or_iff (v : Json) (parts : List Condition) :
    IsCondition v (.or parts) ↔ Tagged "or" (IsList parts) v := by
  constructor
  · intro condition
    cases condition with
    | or sole each => exact ⟨_, _, rfl, sole, _, rfl, each⟩
  · rintro ⟨members, _, rfl, sole, items, rfl, each⟩
    exact .or sole each

theorem isCondition_not_iff (v : Json) (part : Condition) :
    IsCondition v (.not part) ↔ Tagged "not" (IsCondition · part) v := by
  constructor
  · intro condition
    cases condition with
    | not sole inner => exact ⟨_, _, rfl, sole, inner⟩
  · rintro ⟨members, _, rfl, sole, inner⟩
    exact .not sole inner

theorem isCondition_leaf_iff (v : Json) (l : Leaf) :
    IsCondition v (.leaf l) ↔ Tagged "attribute" (IsLeaf · l) v := by
  constructor
  · intro condition
    cases condition with
    | leaf sole test => exact ⟨_, _, rfl, sole, test⟩
  · rintro ⟨members, _, rfl, sole, test⟩
    exact .leaf sole test

theorem areConditions_cons_iff (v : Json) (items : List Json) (c : Condition)
    (parts : List Condition) :
    AreConditions (v :: items) (c :: parts) ↔ IsCondition v c ∧ AreConditions items parts := by
  constructor
  · intro each
    cases each with
    | cons first others => exact ⟨first, others⟩
  · rintro ⟨first, others⟩
    exact .cons first others

theorem isList_sorted_iff {parts : List Condition}
    (each : ∀ items, AreConditions (Json.sortedItems items) parts ↔ AreConditions items parts)
    (v : Json) : IsList parts v.sorted ↔ IsList parts v := by
  constructor
  · rintro ⟨items, same, conditions⟩
    obtain ⟨raw, rfl, rfl⟩ := Json.sorted_eq_array_iff.1 same
    exact ⟨raw, rfl, (each raw).1 conditions⟩
  · rintro ⟨items, rfl, conditions⟩
    exact ⟨_, rfl, (each items).2 conditions⟩

-- The recursion is on the condition: each constructor of the grammar takes off one of the tree.
mutual

/-- **A value stands for the same condition in whatever order its members are.** -/
theorem isCondition_sorted_iff : (c : Condition) → (v : Json) →
    (IsCondition v.sorted c ↔ IsCondition v c)
  | .and parts, v => by
    rw [isCondition_and_iff, isCondition_and_iff]
    exact tagged_sorted_iff (isList_sorted_iff (areConditions_sorted_iff parts)) v
  | .or parts, v => by
    rw [isCondition_or_iff, isCondition_or_iff]
    exact tagged_sorted_iff (isList_sorted_iff (areConditions_sorted_iff parts)) v
  | .not part, v => by
    rw [isCondition_not_iff, isCondition_not_iff]
    exact tagged_sorted_iff (isCondition_sorted_iff part) v
  | .leaf l, v => by
    rw [isCondition_leaf_iff, isCondition_leaf_iff]
    exact tagged_sorted_iff (isLeaf_sorted_iff · l) v

theorem areConditions_sorted_iff : (parts : List Condition) → (items : List Json) →
    (AreConditions (Json.sortedItems items) parts ↔ AreConditions items parts)
  | [], [] => Iff.rfl
  | [], _ :: _ => ⟨nofun, nofun⟩
  | c :: parts, [] => ⟨nofun, nofun⟩
  | c :: parts, v :: items => by
    rw [Json.sortedItems, areConditions_cons_iff, areConditions_cons_iff,
      isCondition_sorted_iff c v, areConditions_sorted_iff parts items]

end

/-! ### Audiences and attributes -/

/-- What stands for the identifier, the name and the condition of an audience. -/
def AudienceFields (id? name? conditions? : Option Json) (a : Audience) : Prop :=
  id? = some (.string a.id) ∧ name? = some (.string a.name) ∧
    ∃ v, conditions? = some v ∧ IsCondition v a.conditions

theorem audienceFields_sorted_iff (id? name? conditions? : Option Json) (a : Audience) :
    AudienceFields (id?.map Json.sorted) (name?.map Json.sorted) (conditions?.map Json.sorted) a ↔
      AudienceFields id? name? conditions? a := by
  have rule (v : Json) (c : Condition) : IsCondition v.sorted c ↔ IsCondition v c :=
    isCondition_sorted_iff c v
  rw [AudienceFields, Json.map_sorted_eq_string_iff, Json.map_sorted_eq_string_iff,
    exists_sorted_iff rule, AudienceFields]

theorem isAudience_object_iff (a : Audience) :
    IsAudience (.object members) a ↔
      AudienceFields (bound? "id" members) (bound? "name" members) (bound? "conditions" members)
        a := by
  constructor
  · intro audience
    cases audience with
    | object identified named conditions rule => exact ⟨identified, named, _, conditions, rule⟩
  · rintro ⟨identified, named, v, conditions, rule⟩
    exact .object identified named conditions rule

theorem isAudience_array_iff (items : List Json) (a : Audience) :
    IsAudience (.array items) a ↔
      items.length ≤ 3 ∧ AudienceFields items[0]? items[1]? items[2]? a := by
  constructor
  · intro audience
    cases audience with
    | triple rule => exact ⟨Nat.le_refl 3, rfl, rfl, _, rfl, rule⟩
  · rintro ⟨short, identified, named, v, conditions, rule⟩
    obtain ⟨id, name, c⟩ := a
    match items with
    | [] => cases identified
    | [_] => cases named
    | [_, _] => cases conditions
    | [_, _, _] =>
      cases identified
      cases named
      cases conditions
      exact .triple rule
    | _ :: _ :: _ :: _ :: _ =>
      simp only [List.length_cons] at short
      omega

theorem isAudience_sorted_iff (v : Json) (a : Audience) :
    IsAudience v.sorted a ↔ IsAudience v a := by
  cases v with
  | array items =>
    rw [Json.sorted, isAudience_array_iff, isAudience_array_iff, Json.length_sortedItems]
    simp only [Json.getElem?_sortedItems, audienceFields_sorted_iff]
  | object members =>
    rw [Json.sorted, isAudience_object_iff, isAudience_object_iff]
    simp only [Json.bound?_sorted, audienceFields_sorted_iff]
  | null => rfl
  | bool b => rfl
  | number n => rfl
  | string s => rfl

theorem isTable_object_iff (find : String → Option Value) :
    IsTable (.object members) find ↔
      ∀ name, Option.Rel IsScalar (bound? name members) (find name) := by
  constructor
  · rintro ⟨⟩
    assumption
  · exact .object

theorem rel_sorted_iff (found : Option Json) (value? : Option Value) :
    Option.Rel IsScalar (found.map Json.sorted) value? ↔ Option.Rel IsScalar found value? := by
  cases found with
  | none => rfl
  | some v =>
    cases value? with
    | none => exact ⟨nofun, nofun⟩
    | some value =>
      rw [Option.map_some, Option.rel_some_some, Option.rel_some_some, isScalar_sorted_iff]

theorem isTable_sorted_iff (v : Json) (find : String → Option Value) :
    IsTable v.sorted find ↔ IsTable v find := by
  cases v with
  | object members =>
    rw [Json.sorted, isTable_object_iff, isTable_object_iff]
    simp only [Json.bound?_sorted, rel_sorted_iff]
  | array items => exact ⟨nofun, nofun⟩
  | null => rfl
  | bool b => rfl
  | number n => rfl
  | string s => rfl

end Targeting.Stored

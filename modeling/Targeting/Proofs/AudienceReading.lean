import Targeting.Proofs.ConditionReading

/-!
# Audiences and attributes by the grammar

What is said of leaves holds of audiences: a draft is filled with what its fields are bound to, so
where no object repeats a name an audience is read as what it is by the grammar
(`Stored.audienceOf_eq_ok_iff`). Attributes are put into a table one by one; which names the table
binds and to what is told by the object (`Stored.exists_attributesOf_iff`).
-/

set_option autoImplicit false

namespace Targeting.Stored

open Json (bound? bind_eq_ok_iff pure_eq_ok_iff)

variable {members : List (String × Json)}

/-- The word of a field of an audience. -/
def AudienceField.word : AudienceField → String
  | id => "id"
  | name => "name"
  | conditions => "conditions"

theorem AudienceField.ofName?_eq_some {word : String} {field : AudienceField} :
    ofName? word = some field ↔ word = field.word := by
  constructor
  · intro found
    rw [ofName?.eq_def] at found
    split at found <;> cases found <;> rfl
  · rintro rfl
    cases field <;> rfl

namespace AudienceDraft

/-- Each field holds what its name is bound to. -/
structure Filled (members : List (String × Json)) (d : AudienceDraft) : Prop where
  id : Option.Rel (stringOf · = .ok ·) (bound? "id" members) d.id?
  name : Option.Rel (stringOf · = .ok ·) (bound? "name" members) d.name?
  conditions : Option.Rel (conditionOf · = .ok ·) (bound? "conditions" members) d.conditions?

theorem filled_iff (d : AudienceDraft) : Filled members d ↔
    Option.Rel (stringOf · = .ok ·) (bound? "id" members) d.id? ∧
      Option.Rel (stringOf · = .ok ·) (bound? "name" members) d.name? ∧
        Option.Rel (conditionOf · = .ok ·) (bound? "conditions" members) d.conditions? :=
  ⟨fun ⟨id, name, conditions⟩ => ⟨id, name, conditions⟩,
    fun ⟨id, name, conditions⟩ => ⟨id, name, conditions⟩⟩

/-- A member that belongs to a field fills it, if it was empty; another member is passed over. -/
theorem putMember_eq_ok_iff {d d' : AudienceDraft} (word : String) (v : Json) :
    d.putMember (word, v) = .ok d' ↔
      match AudienceField.ofName? word with
      | none => d' = d
      | some .id => d.id? = none ∧ ∃ s, stringOf v = .ok s ∧ d' = { d with id? := some s }
      | some .name => d.name? = none ∧ ∃ s, stringOf v = .ok s ∧ d' = { d with name? := some s }
      | some .conditions =>
        d.conditions? = none ∧
          ∃ c, conditionOf v = .ok c ∧ d' = { d with conditions? := some c } := by
  cases field : AudienceField.ofName? word with
  | none => simp only [putMember, field, Except.ok.injEq, eq_comm]
  | some f =>
    cases f with
    | id =>
      simp only [putMember, field, bind_eq_ok_iff, pure_eq_ok_iff, check, unless_isSome_eq_ok_iff,
        exists_const]
    | name =>
      simp only [putMember, field, bind_eq_ok_iff, pure_eq_ok_iff, check, unless_isSome_eq_ok_iff,
        exists_const]
    | conditions =>
      simp only [putMember, field, bind_eq_ok_iff, pure_eq_ok_iff, check, unless_isSome_eq_ok_iff,
        exists_const]

theorem filled_append_iff {ms : List (String × Json)} {word : String} {v : Json}
    (fresh : bound? word ms = none) (d' : AudienceDraft) :
    Filled (ms ++ [(word, v)]) d' ↔ ∃ d, Filled ms d ∧ d.putMember (word, v) = .ok d' := by
  simp only [putMember_eq_ok_iff, filled_iff, Json.bound?_append_single]
  cases field : AudienceField.ofName? word with
  | none =>
    have other (f : AudienceField) : word ≠ f.word := by
      rintro rfl
      rw [AudienceField.ofName?_eq_some.2 rfl] at field
      cases field
    simp only [if_neg (show word ≠ "id" from other .id),
      if_neg (show word ≠ "name" from other .name),
      if_neg (show word ≠ "conditions" from other .conditions), exists_eq_right']
  | some f =>
    obtain rfl := AudienceField.ofName?_eq_some.1 field
    cases f with
    | id =>
      change bound? "id" ms = none at fresh
      simp only [AudienceField.word, if_true, String.reduceEq, if_false, fresh, rel_some_iff]
      constructor
      · rintro ⟨⟨s, read, found⟩, name, conditions⟩
        refine ⟨{ d' with id? := none }, ⟨rel_none_iff.2 rfl, name, conditions⟩, rfl, s, read, ?_⟩
        rw [← found]
      · rintro ⟨d, ⟨-, name, conditions⟩, -, s, read, rfl⟩
        exact ⟨⟨s, read, rfl⟩, name, conditions⟩
    | name =>
      change bound? "name" ms = none at fresh
      simp only [AudienceField.word, if_true, String.reduceEq, if_false, fresh, rel_some_iff]
      constructor
      · rintro ⟨id, ⟨s, read, found⟩, conditions⟩
        refine ⟨{ d' with name? := none }, ⟨id, rel_none_iff.2 rfl, conditions⟩, rfl, s, read, ?_⟩
        rw [← found]
      · rintro ⟨d, ⟨id, -, conditions⟩, -, s, read, rfl⟩
        exact ⟨id, ⟨s, read, rfl⟩, conditions⟩
    | conditions =>
      change bound? "conditions" ms = none at fresh
      simp only [AudienceField.word, if_true, String.reduceEq, if_false, fresh, rel_some_iff]
      constructor
      · rintro ⟨id, name, c, read, found⟩
        refine ⟨{ d' with conditions? := none }, ⟨id, name, rel_none_iff.2 rfl⟩, rfl, c, read, ?_⟩
        rw [← found]
      · rintro ⟨d, ⟨id, name, -⟩, -, c, read, rfl⟩
        exact ⟨id, name, c, read, rfl⟩

theorem foldlM_putMember_iff (nodup : (members.map Prod.fst).Nodup) (d : AudienceDraft) :
    members.foldlM putMember {} = .ok d ↔ Filled members d := by
  refine foldlM_eq_ok_iff (fun d => ?_) (fun ms m d' fresh => filled_append_iff fresh d') nodup d
  obtain ⟨id?, name?, conditions?⟩ := d
  simp only [filled_iff, bound?, rel_none_iff, AudienceDraft.mk.injEq]

theorem finish_eq_ok_iff (d : AudienceDraft) (a : Audience) :
    d.finish = .ok a ↔
      d = { id? := some a.id, name? := some a.name, conditions? := some a.conditions } := by
  obtain ⟨id?, name?, conditions?⟩ := d
  obtain ⟨id, name, c⟩ := a
  cases id? with
  | none => exact ⟨nofun, nofun⟩
  | some s =>
    cases name? with
    | none => exact ⟨nofun, nofun⟩
    | some t =>
      cases conditions? with
      | none => exact ⟨nofun, nofun⟩
      | some c' => simp [finish]

end AudienceDraft

theorem audienceOf_object_iff (nodup : (members.map Prod.fst).Nodup)
    (distinct : ∀ m ∈ members, m.2.distinct = true) (a : Audience) :
    audienceOf (.object members) = .ok a ↔ IsAudience (.object members) a := by
  have rule : Option.Rel (conditionOf · = .ok ·) (bound? "conditions" members)
      (some a.conditions) ↔
        ∃ v, bound? "conditions" members = some v ∧ IsCondition v a.conditions := by
    rw [rel_right_iff]
    refine exists_congr fun v => and_congr_right fun found => ?_
    exact conditionOf_eq_ok_iff a.conditions (distinct _ (Json.mem_of_bound? found))
  rw [audienceOf, bind_eq_ok_iff, isAudience_object_iff]
  simp only [AudienceDraft.foldlM_putMember_iff nodup, AudienceDraft.finish_eq_ok_iff,
    exists_eq_right, AudienceDraft.filled_iff, rel_stringOf_iff, rule, AudienceFields]

theorem audienceOf_array_iff {items : List Json} (distinct : ∀ v ∈ items, v.distinct = true)
    (a : Audience) : audienceOf (.array items) = .ok a ↔ IsAudience (.array items) a := by
  rw [audienceOf, isAudience_array_iff]
  obtain _ | ⟨i, _ | ⟨n, _ | ⟨v, _ | ⟨w, rest⟩⟩⟩⟩ := items
  · constructor
    · intro read
      cases read
    · rintro ⟨-, identified, -⟩
      cases identified
  · constructor
    · intro read
      obtain ⟨id, -, read⟩ := bind_eq_ok_iff.1 read
      cases read
    · rintro ⟨-, -, named, -⟩
      cases named
  · constructor
    · intro read
      obtain ⟨id, -, read⟩ := bind_eq_ok_iff.1 read
      obtain ⟨name, -, read⟩ := bind_eq_ok_iff.1 read
      cases read
    · rintro ⟨-, -, -, v, found, -⟩
      cases found
  · have rule (c : Condition) := conditionOf_eq_ok_iff c (distinct v (by simp))
    simp only [audienceOfItems, bind_eq_ok_iff, pure_eq_ok_iff, stringOf_eq_ok_iff, rule,
      List.isEmpty_nil, if_true]
    constructor
    · rintro ⟨id, rfl, name, rfl, c, holds, rfl⟩
      exact ⟨Nat.le_refl 3, rfl, rfl, v, rfl, holds⟩
    · rintro ⟨-, identified, named, _, ⟨⟩, holds⟩
      exact ⟨a.id, Option.some.inj identified, a.name, Option.some.inj named, a.conditions, holds,
        rfl⟩
  · constructor
    · intro read
      obtain ⟨id, -, read⟩ := bind_eq_ok_iff.1 read
      obtain ⟨name, -, read⟩ := bind_eq_ok_iff.1 read
      obtain ⟨c, -, read⟩ := bind_eq_ok_iff.1 read
      cases read
    · rintro ⟨short, -⟩
      simp only [List.length_cons] at short
      omega

/-- Where no object repeats a name an audience is read as what it is by the grammar. -/
theorem audienceOf_eq_ok_iff {v : Json} (distinct : v.distinct = true) (a : Audience) :
    audienceOf v = .ok a ↔ IsAudience v a := by
  cases v with
  | object members =>
    obtain ⟨nodup, each⟩ := (Json.distinct_object_iff members).1 distinct
    exact audienceOf_object_iff nodup each a
  | array items =>
    exact audienceOf_array_iff ((distinct_array_iff items).1 distinct) a
  | null => exact ⟨nofun, nofun⟩
  | bool b => exact ⟨nofun, nofun⟩
  | number n => exact ⟨nofun, nofun⟩
  | string s => exact ⟨nofun, nofun⟩

/-! ## Attributes -/

theorem putAttribute_eq_ok_iff (a a' : Attributes) (m : String × Json) :
    putAttribute a m = .ok a' ↔ ∃ value, IsScalar m.2 value ∧ a' = a.insert m.1 value := by
  simp only [putAttribute, bind_eq_ok_iff, pure_eq_ok_iff, valueOf_eq_ok_iff]

/-- The table of an object binds the names that the object binds, to the same values. -/
theorem exists_foldlM_putAttribute_iff (nodup : (members.map Prod.fst).Nodup)
    (find : String → Option Value) :
    (∃ a, members.foldlM putAttribute .empty = .ok a ∧ a.find? = find) ↔
      ∀ name, Option.Rel IsScalar (bound? name members) (find name) := by
  induction members using List.reverseRecOn generalizing find with
  | nil =>
    constructor
    · rintro ⟨a, ⟨⟩, rfl⟩ name
      exact .none
    · intro each
      refine ⟨.empty, rfl, funext fun name => ?_⟩
      exact (rel_none_iff.1 (each name)).symm
  | append_singleton ms m ih =>
    obtain ⟨nodup, fresh⟩ := Json.nodup_append_single nodup
    simp only [List.foldlM_append, bind_eq_ok_iff, List.foldlM_cons, List.foldlM_nil, bind_pure,
      putAttribute_eq_ok_iff, Json.bound?_append_single]
    constructor
    · rintro ⟨_, ⟨a, read, value, scalar, rfl⟩, rfl⟩ name
      rw [Table.find?_insert]
      by_cases same : m.1 = name
      · rw [if_pos same, if_pos same.symm]
        exact .some scalar
      · rw [if_neg same, if_neg (Ne.symm same)]
        exact (ih nodup a.find?).1 ⟨a, read, rfl⟩ name
    · intro each
      obtain ⟨value, scalar, found⟩ : ∃ value, IsScalar m.2 value ∧ find m.1 = some value := by
        have own := each m.1
        rw [if_pos rfl] at own
        exact rel_some_iff.1 own
      -- Before the last member its name was not bound.
      have before : ∀ name, Option.Rel IsScalar (bound? name ms)
          (if m.1 = name then none else find name) := by
        intro name
        by_cases same : m.1 = name
        · rw [if_pos same, ← same, fresh]
          exact .none
        · have own := each name
          rw [if_neg same] at own ⊢
          exact own
      obtain ⟨a, read, look⟩ := (ih nodup _).2 before
      refine ⟨a.insert m.1 value, ⟨a, read, value, scalar, rfl⟩, funext fun name => ?_⟩
      rw [Table.find?_insert, look]
      by_cases same : m.1 = name
      · rw [if_pos same.symm, ← same, found]
      · rw [if_neg (Ne.symm same)]
        exact if_neg same

/-- Where no object repeats a name attributes are read as the table of the grammar. -/
theorem exists_attributesOf_iff {v : Json} (distinct : v.distinct = true)
    (find : String → Option Value) :
    (∃ a, attributesOf v = .ok a ∧ a.find? = find) ↔ IsTable v find := by
  cases v with
  | object members =>
    obtain ⟨nodup, -⟩ := (Json.distinct_object_iff members).1 distinct
    rw [isTable_object_iff]
    exact exists_foldlM_putAttribute_iff nodup find
  | null => exact ⟨nofun, nofun⟩
  | bool b => exact ⟨nofun, nofun⟩
  | number n => exact ⟨nofun, nofun⟩
  | string s => exact ⟨nofun, nofun⟩
  | array items => exact ⟨nofun, nofun⟩

end Targeting.Stored

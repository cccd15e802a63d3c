import Targeting.Proofs.LeafReading

/-!
# Conditions by the grammar

A condition is read by its word: the word says what becomes of the value that it is bound to
(`Stored.conditionOf_iff_tagged`). Where no object repeats a name that is what the grammar says
(`Stored.conditionOf_eq_ok_iff`), and sorting leaves no name repeated, so any value is read as a
condition if and only if it is one (`Stored.condition_grammar`).
-/

set_option autoImplicit false

namespace Targeting.Stored

open Json (Sole bound? bind_eq_ok_iff pure_eq_ok_iff)

variable {members : List (String × Json)}

/-- The word for a kind of condition. -/
def Tag.word : Tag → String
  | and => "and"
  | or => "or"
  | not => "not"
  | leaf => "attribute"

theorem choose_tags_iff (name : String) (tag : Tag) :
    choose tags name = .ok tag ↔ name = tag.word :=
  choose_eq_ok_iff (by decide) (fun tag => by cases tag <;> rfl) name tag

/-- One step of reading a condition: what becomes of the value that the word is bound to. -/
inductive ReadsBody : Tag → Json → Condition → Prop
  | and {items : List Json} {parts : List Condition} (each : conditionsOf items = .ok parts) :
    ReadsBody .and (.array items) (.and parts)
  | or {items : List Json} {parts : List Condition} (each : conditionsOf items = .ok parts) :
    ReadsBody .or (.array items) (.or parts)
  | not {v : Json} {part : Condition} (inner : conditionOf v = .ok part) :
    ReadsBody .not v (.not part)
  | leaf {v : Json} {l : Leaf} (test : leafOf v = .ok l) : ReadsBody .leaf v (.leaf l)

theorem conditionOf_single_iff (name : String) (v : Json) (c : Condition) :
    conditionOf (.object [(name, v)]) = .ok c ↔ ∃ tag, name = Tag.word tag ∧ ReadsBody tag v c := by
  constructor
  · intro read
    unfold conditionOf at read
    obtain ⟨tag, chosen, read⟩ := bind_eq_ok_iff.1 read
    refine ⟨tag, (choose_tags_iff name tag).1 chosen, ?_⟩
    cases tag with
    | and =>
      cases v with
      | array items =>
        obtain ⟨parts, each, read⟩ := bind_eq_ok_iff.1 read
        cases read
        exact .and each
      | _ => cases read
    | or =>
      cases v with
      | array items =>
        obtain ⟨parts, each, read⟩ := bind_eq_ok_iff.1 read
        cases read
        exact .or each
      | _ => cases read
    | not =>
      obtain ⟨part, inner, read⟩ := bind_eq_ok_iff.1 read
      cases read
      exact .not inner
    | leaf =>
      obtain ⟨l, test, read⟩ := bind_eq_ok_iff.1 read
      cases read
      exact .leaf test
  · rintro ⟨tag, rfl, body⟩
    cases body with
    | and each => exact conditionOf_and each
    | or each => exact conditionOf_or each
    | not inner => exact conditionOf_not inner
    | leaf test => exact conditionOf_leaf test

/-- Reading a condition looks for the word that is bound alone. -/
theorem conditionOf_iff_tagged {v : Json} (distinct : v.distinct = true) (c : Condition) :
    conditionOf v = .ok c ↔ ∃ tag, Tagged (Tag.word tag) (ReadsBody tag · c) v := by
  cases v with
  | object members =>
    obtain ⟨nodup, -⟩ := (Json.distinct_object_iff members).1 distinct
    constructor
    · intro read
      match members with
      | [] => cases read
      | _ :: _ :: _ => cases read
      | [(name, inner)] =>
        obtain ⟨tag, rfl, body⟩ := (conditionOf_single_iff name inner c).1 read
        exact ⟨tag, _, inner, rfl, (Json.sole_iff_of_nodup nodup).2 rfl, body⟩
    · rintro ⟨tag, _, inner, ⟨⟩, sole, body⟩
      rw [(Json.sole_iff_of_nodup nodup).1 sole, conditionOf_single_iff]
      exact ⟨tag, rfl, body⟩
  | string name =>
    constructor
    · intro read
      obtain ⟨tag, -, read⟩ := bind_eq_ok_iff.1 read
      cases read
    · rintro ⟨_, _, _, ⟨⟩, _⟩
  | _ => exact ⟨nofun, fun ⟨_, _, _, same, _⟩ => by cases same⟩

theorem distinct_of_sole {name : String} {v : Json} (sole : Sole name v members)
    (distinct : (Json.object members).distinct = true) : v.distinct = true :=
  ((Json.distinct_object_iff members).1 distinct).2 _ (Json.mem_of_bound? sole.1)

theorem distinct_array_iff (items : List Json) :
    (Json.array items).distinct = true ↔ ∀ v ∈ items, v.distinct = true := by
  rw [Json.distinct, Json.distinctItems_iff]

/-- What a condition of one kind is read from, given what its body is read from. -/
theorem conditionOf_iff_of_body {v : Json} (distinct : v.distinct = true) (tag : Tag) {c : Condition}
    {P : Json → Prop} (only : ∀ other w, ReadsBody other w c → other = tag)
    (body : ∀ w, w.distinct = true → (ReadsBody tag w c ↔ P w)) :
    conditionOf v = .ok c ↔ Tagged tag.word P v := by
  rw [conditionOf_iff_tagged distinct]
  constructor
  · rintro ⟨other, members, w, rfl, sole, read⟩
    obtain rfl := only other w read
    exact ⟨members, w, rfl, sole, (body w (distinct_of_sole sole distinct)).1 read⟩
  · rintro ⟨members, w, rfl, sole, holds⟩
    exact ⟨tag, members, w, rfl, sole, (body w (distinct_of_sole sole distinct)).2 holds⟩

-- The recursion is on the condition, as for the order of members.
mutual

/-- **Where no object repeats a name a value is read as what it is by the grammar.** -/
theorem conditionOf_eq_ok_iff : (c : Condition) → {v : Json} → v.distinct = true →
    (conditionOf v = .ok c ↔ IsCondition v c)
  | .and parts, v, distinct => by
    rw [isCondition_and_iff]
    refine conditionOf_iff_of_body distinct .and (by rintro _ _ ⟨⟩; rfl) fun w plain => ?_
    constructor
    · intro body
      cases body with
      | and each =>
        exact ⟨_, rfl, (conditionsOf_eq_ok_iff parts ((distinct_array_iff _).1 plain)).1 each⟩
    · rintro ⟨items, rfl, each⟩
      exact .and ((conditionsOf_eq_ok_iff parts ((distinct_array_iff _).1 plain)).2 each)
  | .or parts, v, distinct => by
    rw [isCondition_or_iff]
    refine conditionOf_iff_of_body distinct .or (by rintro _ _ ⟨⟩; rfl) fun w plain => ?_
    constructor
    · intro body
      cases body with
      | or each =>
        exact ⟨_, rfl, (conditionsOf_eq_ok_iff parts ((distinct_array_iff _).1 plain)).1 each⟩
    · rintro ⟨items, rfl, each⟩
      exact .or ((conditionsOf_eq_ok_iff parts ((distinct_array_iff _).1 plain)).2 each)
  | .not part, v, distinct => by
    rw [isCondition_not_iff]
    refine conditionOf_iff_of_body distinct .not (by rintro _ _ ⟨⟩; rfl) fun w plain => ?_
    rw [← conditionOf_eq_ok_iff part plain]
    exact ⟨fun | .not inner => inner, .not⟩
  | .leaf l, v, distinct => by
    rw [isCondition_leaf_iff]
    refine conditionOf_iff_of_body distinct .leaf (by rintro _ _ ⟨⟩; rfl) fun w plain => ?_
    rw [← leafOf_eq_ok_iff plain l]
    exact ⟨fun | .leaf test => test, .leaf⟩

theorem conditionsOf_eq_ok_iff : (parts : List Condition) → {items : List Json} →
    (∀ v ∈ items, v.distinct = true) → (conditionsOf items = .ok parts ↔ AreConditions items parts)
  | [], [], _ => ⟨fun _ => .nil, fun _ => rfl⟩
  | _ :: _, [], _ => ⟨nofun, nofun⟩
  | [], v :: items, distinct => by
    constructor
    · intro read
      obtain ⟨c, -, read⟩ := bind_eq_ok_iff.1 read
      obtain ⟨cs, -, read⟩ := bind_eq_ok_iff.1 read
      cases read
    · exact nofun
  | c :: parts, v :: items, distinct => by
    obtain ⟨first, others⟩ := List.forall_mem_cons.1 distinct
    rw [areConditions_cons_iff, ← conditionOf_eq_ok_iff c first,
      ← conditionsOf_eq_ok_iff parts others]
    simp only [conditionsOf, bind_eq_ok_iff, pure_eq_ok_iff, List.cons.injEq]
    constructor
    · rintro ⟨_, read, _, rest, rfl, rfl⟩
      exact ⟨read, rest⟩
    · rintro ⟨read, rest⟩
      exact ⟨c, read, parts, rest, rfl, rfl⟩

end

/-! ## What is read is finite -/

theorem isFinite_toBinary64 (n : Json.Number) : n.toBinary64.isFinite = true := by
  cases n with
  | int n fits =>
    obtain ⟨above, below⟩ := fits
    have low : Json.twoPow 63 = 9223372036854775808 := by decide
    have high : Json.twoPow 64 = 18446744073709551616 := by decide
    apply Binary64.isFinite_ofInt
    omega
  | real x finite => exact finite

theorem IsScalar.finite {v : Json} {value : Value} (scalar : IsScalar v value) : value.Finite := by
  cases scalar with
  | number n => exact isFinite_toBinary64 n
  | null => trivial
  | bool b => trivial
  | string s => trivial

theorem IsLeaf.finite {v : Json} {l : Leaf} (leaf : IsLeaf v l) : l.value.Finite := by
  cases leaf with
  | @object members _ _ _ value _ _ _ expected =>
    cases found : bound? "value" members with
    | none =>
      rw [found] at expected
      obtain rfl : value = .null := expected
      trivial
    | some v =>
      rw [found] at expected
      exact IsScalar.finite expected
  | pair => trivial
  | triple _ expected => exact expected.finite

mutual

theorem IsCondition.finite : (c : Condition) → {v : Json} → IsCondition v c →
    ∀ l ∈ c.leaves, l.value.Finite
  | .and parts, _, .and _ each => AreConditions.finite parts each
  | .or parts, _, .or _ each => AreConditions.finite parts each
  | .not part, _, .not _ inner => IsCondition.finite part inner
  | .leaf _, _, .leaf _ test => List.forall_mem_singleton.2 test.finite

theorem AreConditions.finite : (parts : List Condition) → {items : List Json} →
    AreConditions items parts → ∀ l ∈ Condition.leavesList parts, l.value.Finite
  | [], _, _ => fun _ mem => by cases mem
  | c :: parts, _, .cons first others =>
    List.forall_mem_append.2 ⟨IsCondition.finite c first, AreConditions.finite parts others⟩

end

/-- **A JSON value is read as a condition if and only if it is one by the grammar**, and then as the
condition of the grammar; every number in it is finite. -/
theorem condition_grammar (v : Json) :
    (∀ c, Condition.ofJson v = .ok c ↔ IsCondition v c) ∧
      ∀ c, Condition.ofJson v = .ok c → ∀ l ∈ c.leaves, l.value.Finite := by
  have read (c : Condition) : Condition.ofJson v = .ok c ↔ IsCondition v c := by
    rw [Condition.ofJson, conditionOf_eq_ok_iff c (Json.distinct_sorted v),
      isCondition_sorted_iff c v]
  refine ⟨read, fun c accepted => ?_⟩
  exact IsCondition.finite c ((read c).1 accepted)

/-- A leaf may bind other names, leave out its value and give its operator as an object. -/
example :
    Condition.ofJson (.object [("not", .object [("attribute",
      .object [("x", .array []), ("name", .string "beta"), ("match", .object [("exists", .null)])])])]) =
        .ok (.not (.present "beta")) :=
  rfl

end Targeting.Stored

import Targeting.Stored.FromText
import Targeting.Proofs.JsonReading
import Targeting.Proofs.Rereading

/-!
# Stored rules read back from text

The text of a stored rule can be read in two ways: as JSON, which is then read as a rule, or at once
as a rule. Both give what is left of the rule with its numbers reread (`Stored.reloads`); the second
needs a text that stays within the limit on nesting, the first any limit that the text stays within.
That is what is left of the rule itself exactly if its numbers are reread as themselves
(`Stored.stored_comes_back`).
-/

set_option autoImplicit false

namespace Targeting.Stored

open Json (Fault Reader Token spell)

/-- An operator is read from its name. -/
theorem takes_operator (o : Operator) (depth : Nat) :
    Reader.Takes (readChoice operators depth) o.toJson o := by
  intro ts
  have known : choose operators o.text = .ok o := by cases o <;> rfl
  rw [Operator.toJson, spell, readChoice, known]
  rfl

theorem nesting_value (v : Value) : v.toJson.nesting = 0 := by
  cases v with
  | number x =>
    rw [Value.toJson]
    split <;> rfl
  | null => rfl
  | flag b => rfl
  | text s => rfl

theorem takes_value (v : Value) (depth : Nat) :
    Reader.Takes (readValue depth) v.toJson v.stored := by
  intro ts
  have shallow : v.toJson.nesting ≤ depth := by rw [nesting_value]; exact Nat.zero_le depth
  rw [readValue, Json.takes_ofTokens v.toJson shallow ts]
  simp only [valueOf_toJson, bind, Except.bind]
  rfl

namespace LeafDraft

variable {d : LeafDraft}

theorem readMember_name (fresh : d.name? = none) (depth : Nat) (s : String) (ts : List Token) :
    d.readMember depth "name" (.colon :: spell (.string s) ts) =
      .ok ({ d with name? := some s }, ts) := by
  have field : LeafField.ofName? "name" = some .name := rfl
  simp only [readMember, field, check, fresh, Reader.colon, spell, Reader.string, bind, Except.bind]
  rfl

theorem readMember_operator (fresh : d.operator? = none) {depth : Nat} {v : Json} {o : Operator}
    (takes : Reader.Takes (readChoice operators depth) v o) (ts : List Token) :
    d.readMember depth "match" (.colon :: spell v ts) = .ok ({ d with operator? := some o }, ts) := by
  have field : LeafField.ofName? "match" = some .operator := rfl
  simp only [readMember, field, check, fresh, Reader.colon, takes ts, bind, Except.bind]
  rfl

theorem readMember_value (fresh : d.value? = none) {depth : Nat} {v : Json} {a : Value}
    (takes : Reader.Takes (readValue depth) v a) (ts : List Token) :
    d.readMember depth "value" (.colon :: spell v ts) = .ok ({ d with value? := some a }, ts) := by
  have field : LeafField.ofName? "value" = some .value := rfl
  simp only [readMember, field, check, fresh, Reader.colon, takes ts, bind, Except.bind]
  rfl

end LeafDraft

theorem nesting_leaf (l : Leaf) : l.toJson.nesting = 1 := by
  have value := nesting_value l.value
  simp [Leaf.toJson, Operator.toJson, Json.nesting, Json.nestingMembers, value]

/-- A stored leaf is read with its fields in the order in which they were written. -/
theorem takes_leaf (l : Leaf) {depth : Nat} (shallow : l.toJson.nesting ≤ depth) :
    Reader.Takes (readLeaf depth) l.toJson l.stored := by
  intro ts
  rw [nesting_leaf] at shallow
  obtain ⟨left, rfl⟩ : ∃ left, depth = left + 1 := ⟨depth - 1, by omega⟩
  have fields : Reader.TakesMembers (LeafDraft.readMember left) {}
      [("name", .string l.name), ("match", l.operator.toJson), ("value", l.value.toJson)]
      { name? := some l.name, operator? := some l.operator, value? := some l.value.stored } :=
    .cons (LeafDraft.readMember_name rfl left l.name) <|
      .cons (LeafDraft.readMember_operator rfl (takes_operator l.operator left)) <|
        .cons (LeafDraft.readMember_value rfl (takes_value l.value left)) <| .nil _
  rw [Leaf.toJson, spell, readLeaf, Reader.object_spell fields ts]
  rfl

variable {depth : Nat}

theorem takes_parts {items : List Json} {cs : List Condition}
    (parts : List.Forall₂ (Reader.Takes (readCondition depth)) items cs) :
    Reader.Takes (readParts (depth + 1)) (.array items) cs := by
  intro ts
  rw [spell, readParts, Reader.list_spell parts]

theorem takes_and {v : Json} {cs : List Condition} (parts : Reader.Takes (readParts depth) v cs) :
    Reader.Takes (readCondition (depth + 1)) (.object [("and", v)]) (.and cs) := by
  intro ts
  have tag : choose tags "and" = .ok .and := rfl
  rw [spell, Json.spellMembers, readCondition]
  simp only [Reader.string, tag, Reader.colon, parts (.closeBrace :: ts), bind, Except.bind, pure,
    Except.pure]

theorem takes_or {v : Json} {cs : List Condition} (parts : Reader.Takes (readParts depth) v cs) :
    Reader.Takes (readCondition (depth + 1)) (.object [("or", v)]) (.or cs) := by
  intro ts
  have tag : choose tags "or" = .ok .or := rfl
  rw [spell, Json.spellMembers, readCondition]
  simp only [Reader.string, tag, Reader.colon, parts (.closeBrace :: ts), bind, Except.bind, pure,
    Except.pure]

theorem takes_not {v : Json} {c : Condition} (part : Reader.Takes (readCondition depth) v c) :
    Reader.Takes (readCondition (depth + 1)) (.object [("not", v)]) (.not c) := by
  intro ts
  have tag : choose tags "not" = .ok .not := rfl
  rw [spell, Json.spellMembers, readCondition]
  simp only [Reader.string, tag, Reader.colon, part (.closeBrace :: ts), bind, Except.bind, pure,
    Except.pure]

theorem takes_attribute {v : Json} {l : Leaf} (test : Reader.Takes (readLeaf depth) v l) :
    Reader.Takes (readCondition (depth + 1)) (.object [("attribute", v)]) (.leaf l) := by
  intro ts
  have tag : choose tags "attribute" = .ok .leaf := rfl
  rw [spell, Json.spellMembers, readCondition]
  simp only [Reader.string, tag, Reader.colon, test (.closeBrace :: ts), bind, Except.bind, pure,
    Except.pure]

-- Every node of a condition opens a brace, a composite of several parts a bracket besides; what the
-- limit leaves for the parts is what their nesting needs.
mutual

/-- **A stored condition is read from its tokens as what is left of the condition.** -/
theorem takes_condition : (c : Condition) → {depth : Nat} → c.toJson.nesting ≤ depth →
    Reader.Takes (readCondition depth) c.toJson c.stored
  | .and xs, depth, shallow => by
    rw [Condition.toJson, Json.nesting_single, Json.nesting] at shallow
    obtain ⟨left, rfl⟩ : ∃ left, depth = left + 1 + 1 := ⟨depth - 2, by omega⟩
    exact takes_and (takes_parts (takes_conditions xs (by omega)))
  | .or xs, depth, shallow => by
    rw [Condition.toJson, Json.nesting_single, Json.nesting] at shallow
    obtain ⟨left, rfl⟩ : ∃ left, depth = left + 1 + 1 := ⟨depth - 2, by omega⟩
    exact takes_or (takes_parts (takes_conditions xs (by omega)))
  | .not x, depth, shallow => by
    rw [Condition.toJson, Json.nesting_single] at shallow
    obtain ⟨left, rfl⟩ : ∃ left, depth = left + 1 := ⟨depth - 1, by omega⟩
    exact takes_not (takes_condition x (by omega))
  | .leaf l, depth, shallow => by
    rw [Condition.toJson, Json.nesting_single] at shallow
    obtain ⟨left, rfl⟩ : ∃ left, depth = left + 1 := ⟨depth - 1, by omega⟩
    exact takes_attribute (takes_leaf l (by omega))

theorem takes_conditions : (xs : List Condition) → {depth : Nat} →
    Json.nestingItems (Condition.listToJson xs) ≤ depth →
    List.Forall₂ (Reader.Takes (readCondition depth)) (Condition.listToJson xs)
      (Condition.mapLeavesList Leaf.stored xs)
  | [], _, _ => .nil
  | x :: xs, depth, shallow => by
    rw [Condition.listToJson, Json.nestingItems] at shallow
    exact .cons (takes_condition x (by omega)) (takes_conditions xs (by omega))

end

namespace AudienceDraft

variable {d : AudienceDraft}

theorem readMember_id (fresh : d.id? = none) (depth : Nat) (s : String) (ts : List Token) :
    d.readMember depth "id" (.colon :: spell (.string s) ts) = .ok ({ d with id? := some s }, ts) := by
  have field : AudienceField.ofName? "id" = some .id := rfl
  simp only [readMember, field, check, fresh, Reader.colon, spell, Reader.string, bind, Except.bind]
  rfl

theorem readMember_name (fresh : d.name? = none) (depth : Nat) (s : String) (ts : List Token) :
    d.readMember depth "name" (.colon :: spell (.string s) ts) =
      .ok ({ d with name? := some s }, ts) := by
  have field : AudienceField.ofName? "name" = some .name := rfl
  simp only [readMember, field, check, fresh, Reader.colon, spell, Reader.string, bind, Except.bind]
  rfl

theorem readMember_conditions (fresh : d.conditions? = none) {depth : Nat} {v : Json}
    {c : Condition} (takes : Reader.Takes (readCondition depth) v c) (ts : List Token) :
    d.readMember depth "conditions" (.colon :: spell v ts) =
      .ok ({ d with conditions? := some c }, ts) := by
  have field : AudienceField.ofName? "conditions" = some .conditions := rfl
  simp only [readMember, field, check, fresh, Reader.colon, takes ts, bind, Except.bind]
  rfl

end AudienceDraft

/-- A stored audience is read with its fields in the order in which they were written. -/
theorem takes_audience (a : Audience) {depth : Nat} (shallow : a.toJson.nesting ≤ depth) :
    Reader.Takes (readAudience depth) a.toJson a.stored := by
  intro ts
  simp only [Audience.toJson, Json.nesting, Json.nestingMembers] at shallow
  obtain ⟨left, rfl⟩ : ∃ left, depth = left + 1 := ⟨depth - 1, by omega⟩
  have conditions := takes_condition a.conditions (by omega : a.conditions.toJson.nesting ≤ left)
  have fields : Reader.TakesMembers (AudienceDraft.readMember left) {}
      [("id", .string a.id), ("name", .string a.name), ("conditions", a.conditions.toJson)]
      { id? := some a.id, name? := some a.name, conditions? := some a.conditions.stored } :=
    .cons (AudienceDraft.readMember_id rfl left a.id) <|
      .cons (AudienceDraft.readMember_name rfl left a.name) <|
        .cons (AudienceDraft.readMember_conditions rfl conditions) <| .nil _
  rw [Audience.toJson, spell, readAudience, Reader.object_spell fields ts]
  rfl

/-- What comes back of something that was stored as `v`: from the value itself what was kept of it, and
on every way of reading the text of the value the same with its numbers reread. -/
structure Reloads {α : Type} (ofJson : Json → Except Fault α) (ofText : String → Except Fault α)
    (v : Json) (kept reread : α) : Prop where
  /-- From the value itself. -/
  value : ofJson v = .ok kept
  /-- From the text read as JSON, however deeply it nests. -/
  readAny : (Json.readAny v.text).bind ofJson = .ok reread
  /-- From the text read as JSON within a limit on nesting. -/
  read (limit : Nat) : v.nesting ≤ limit → (Json.read limit v.text).bind ofJson = .ok reread
  /-- From the text at once, within the limit on nesting. -/
  text : v.nesting ≤ Json.nestingLimit → ofText v.text = .ok reread

theorem reloads {α : Type} {ofJson : Json → Except Fault α} {reader : Nat → Reader α} {v w : Json}
    {kept reread : α} (value : ofJson v = .ok kept) (same : v.reread = w)
    (value' : ofJson w = .ok reread)
    (takes : ∀ {depth : Nat}, w.nesting ≤ depth → Reader.Takes (reader depth) w reread) :
    Reloads ofJson (Reader.complete (reader Json.nestingLimit)) v kept reread where
  value := value
  readAny := by
    rw [Json.readAny_text, same]
    exact value'
  read limit shallow := by
    rw [Json.read_text shallow, same]
    exact value'
  text shallow := by
    refine Reader.complete_text ?_
    rw [same]
    refine takes ?_
    rw [← same, Json.nesting_reread]
    exact shallow

/-- A stored condition comes back. -/
theorem condition_reloads (c : Condition) :
    Reloads Condition.ofJson Condition.ofText c.toJson c.stored c.reread.stored :=
  reloads (conditionOf_toJson c) c.reread_toJson (conditionOf_toJson c.reread)
    (takes_condition c.reread)

/-- **What is stored comes back.** From the stored form of a condition, a leaf or an audience everything
comes back but numbers that are not finite, which are null then; so the whole comes back exactly if
there are none. From the text of the stored form the same comes back with every number reread, and
nothing but that is changed; so the text gives what the stored form itself gives exactly if every number
is reread as itself, as a number is that is written with few digits and a small power of ten. -/
theorem stored_comes_back :
    (∀ c : Condition,
      Reloads Condition.ofJson Condition.ofText c.toJson c.stored c.reread.stored ∧
      (c.stored = c ↔ ∀ l ∈ c.leaves, l.value.Finite) ∧
      (c.reread.stored = c.stored ↔ ∀ l ∈ c.leaves, l.value.reread = l.value)) ∧
    (∀ l : Leaf, Reloads Leaf.ofJson Leaf.ofText l.toJson l.stored l.reread.stored ∧
      (l.stored = l ↔ l.value.Finite) ∧
      (l.reread.stored = l.stored ↔ l.value.reread = l.value)) ∧
    (∀ a : Audience,
      Reloads Audience.ofJson Audience.ofText a.toJson ⟨a.id, a.name, a.conditions.stored⟩
        ⟨a.id, a.name, a.conditions.reread.stored⟩ ∧
      (a.conditions.stored = a.conditions ↔ ∀ l ∈ a.conditions.leaves, l.value.Finite) ∧
      (a.conditions.reread.stored = a.conditions.stored ↔
        ∀ l ∈ a.conditions.leaves, l.value.reread = l.value)) ∧
    ∀ (x : Binary64) (s : Spelling), x.isFinite = true → x.WrittenShortly s → x.reread = x := by
  refine ⟨fun c => ⟨condition_reloads c, c.stored_eq_self_iff, c.stored_reread_eq_iff⟩,
    fun l => ⟨?_, l.stored_eq_self_iff, l.stored_reread_eq_iff⟩,
    fun a => ⟨?_, a.conditions.stored_eq_self_iff, a.conditions.stored_reread_eq_iff⟩,
    fun _ _ finite short => Binary64.reread_eq_self_of_short finite short⟩
  · exact reloads (leafOf_toJson l) l.reread_toJson (leafOf_toJson l.reread) (takes_leaf l.reread)
  · exact reloads (audienceOf_toJson a) a.reread_toJson (audienceOf_toJson a.reread)
      (takes_audience a.reread)

/-- A bound that is infinite comes back as null, and minus zero and eighteen and a half as themselves,
also behind quotes and backslashes. -/
theorem infinite_bound_comes_back_null :
    let rule (bound : Value) : Condition :=
      .and [.not (.exact "a \"b\"" (.text "c\\d\n")), .or [], .test "age" .lt bound]
    let infinite : Condition := rule (.number (.infinity false))
    let zero : Condition := rule (.number (.withSign true 0))
    let half : Condition := rule (.number ⟨0x4032800000000000⟩)
    (infinite.toJson.nesting ≤ Json.nestingLimit ∧
      Condition.ofText infinite.toJson.text = .ok (rule .null)) ∧
    (zero.toJson.nesting ≤ Json.nestingLimit ∧ (∀ l ∈ zero.leaves, l.value.Finite) ∧
      Condition.ofText zero.toJson.text = .ok zero) ∧
    (half.toJson.nesting ≤ Json.nestingLimit ∧ (∀ l ∈ half.leaves, l.value.Finite) ∧
      Condition.ofText half.toJson.text = .ok half) := by
  intro rule infinite zero half
  obtain ⟨comesBack, -, -, short⟩ := stored_comes_back
  have lost : infinite.reread.stored = rule .null := rfl
  have comesBackWhole {x : Binary64} (finite : x.isFinite = true) (kept : x.reread = x)
      (shallow : (rule (.number x)).toJson.nesting ≤ Json.nestingLimit) :
      (∀ l ∈ (rule (.number x)).leaves, l.value.Finite) ∧
      Condition.ofText (rule (.number x)).toJson.text = .ok (rule (.number x)) := by
    obtain ⟨reloads, whole, same⟩ := comesBack (rule (.number x))
    have all : ∀ l ∈ (rule (.number x)).leaves, l.value.Finite :=
      List.forall_mem_cons.2 ⟨trivial, List.forall_mem_singleton.2 finite⟩
    have text := reloads.text shallow
    rw [same.2 (List.forall_mem_cons.2
      ⟨rfl, List.forall_mem_singleton.2 (congrArg Value.number kept)⟩), whole.2 all] at text
    exact ⟨all, text⟩
  have zeroKept : (Binary64.withSign true 0).reread = .withSign true 0 :=
    short _ ⟨['0'], ['0'], none⟩ (by decide)
      ⟨by decide, by decide, by decide, by decide⟩
  have halfKept : (⟨0x4032800000000000⟩ : Binary64).reread = ⟨0x4032800000000000⟩ :=
    short _ ⟨['1', '8'], ['5'], none⟩ (by decide)
      ⟨by decide, by decide +kernel, by decide, by decide⟩
  have shallow : infinite.toJson.nesting ≤ Json.nestingLimit := by decide
  have shallow' : zero.toJson.nesting ≤ Json.nestingLimit := by decide
  have shallow'' : half.toJson.nesting ≤ Json.nestingLimit := by decide
  refine ⟨⟨shallow, ?_⟩, ⟨shallow', comesBackWhole (by decide) zeroKept shallow'⟩, shallow'',
    comesBackWhole (by decide) halfKept shallow''⟩
  rw [← lost]
  exact (comesBack infinite).1.text shallow

/-- A price that comes out of `1.1 * 100`. The decimal that is written of it has the price as its
nearest number, but is read as the number before. -/
theorem long_price_comes_back_as_another :
    let price : Binary64 := ⟨0x405b800000000001⟩
    let rule (bound : Binary64) : Condition := .test "price" .ge (.number bound)
    ((rule price).toJson.nesting ≤ Json.nestingLimit ∧
      (∀ l ∈ (rule price).leaves, l.value.Finite)) ∧
    (rule price).toJson.text =
      "\x7b\"attribute\":\x7b\"name\":\"price\",\"match\":\"ge\",\"value\":110.00000000000001\x7d\x7d" ∧
    Binary64.decimalPattern 11000000000000001 (-14) = price.bits.toNat ∧
    Condition.ofText (rule price).toJson.text = .ok (rule ⟨0x405b800000000000⟩) ∧
    Condition.ofText (rule price).toJson.text ≠ .ok (rule price) := by
  intro price rule
  have finite : price.isFinite = true := by decide
  exact ⟨⟨by decide, List.forall_mem_singleton.2 finite⟩, by decide +kernel, by decide +kernel,
    by decide +kernel, by decide +kernel⟩

end Targeting.Stored

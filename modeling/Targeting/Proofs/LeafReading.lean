import Mathlib.Data.List.Induction
import Targeting.Proofs.Grammar

/-!
# Leaves by the grammar

A draft is filled member by member, and a second member for a field is refused. Where no name is
repeated this comes to looking up what each field is bound to
(`Stored.LeafDraft.foldlM_putMember_iff`), so there a leaf is read as what it is by the grammar
(`Stored.leafOf_eq_ok_iff`).
-/

set_option autoImplicit false

namespace Targeting.Stored

open Json (Fault bound? bind_eq_ok_iff pure_eq_ok_iff)

variable {α σ : Type} {members : List (String × Json)}

theorem unless_isSome_eq_ok_iff {o : Option α} {fault : Fault} {u : Unit} :
    (if o.isSome then (.error fault : Except Fault Unit) else .ok ()) = .ok u ↔ o = none := by
  cases o with
  | none => exact ⟨fun _ => rfl, fun _ => rfl⟩
  | some a => exact ⟨nofun, nofun⟩

theorem rel_none_iff {R : Json → α → Prop} {o : Option α} : Option.Rel R none o ↔ o = none := by
  cases o with
  | none => exact ⟨fun _ => rfl, fun _ => .none⟩
  | some a => exact ⟨nofun, nofun⟩

theorem rel_some_iff {R : Json → α → Prop} {v : Json} {o : Option α} :
    Option.Rel R (some v) o ↔ ∃ a, R v a ∧ o = some a := by
  cases o with
  | none => exact ⟨nofun, nofun⟩
  | some a => simp [Option.rel_some_some]

theorem stringOf_eq_ok_iff (v : Json) (s : String) : stringOf v = .ok s ↔ v = .string s := by
  cases v <;> simp [stringOf]

theorem valueOf_eq_ok_iff (v : Json) (value : Value) : valueOf v = .ok value ↔ IsScalar v value := by
  constructor
  · intro read
    cases v with
    | array items => cases read
    | object members => cases read
    | null =>
      cases read
      exact .null
    | bool b =>
      cases read
      exact .bool b
    | number n =>
      cases read
      exact .number n
    | string s =>
      cases read
      exact .string s
  · rintro ⟨⟩ <;> rfl

/-- An alternative is chosen by its word, where no two have the same. -/
theorem choose_eq_ok_iff {alternatives : List (String × α)} {word : α → String}
    (words : ∀ e ∈ alternatives, e.1 = word e.2)
    (known : ∀ a, alternatives.lookup (word a) = some a) (name : String) (a : α) :
    choose alternatives name = .ok a ↔ name = word a := by
  rw [choose]
  constructor
  · intro read
    split at read
    · rename_i found
      cases read
      obtain ⟨before, after, entries, -⟩ := List.lookup_eq_some_iff.1 found
      refine words (name, a) ?_
      rw [entries]
      exact List.mem_append_right before List.mem_cons_self
    · cases read
  · rintro rfl
    rw [known a]

theorem choose_operators_iff (name : String) (o : Operator) :
    choose operators name = .ok o ↔ name = o.text :=
  choose_eq_ok_iff (by decide) (fun o => by cases o <;> rfl) name o

theorem choiceOf_object_iff {alternatives : List (String × α)} (a : α) :
    choiceOf alternatives (.object members) = .ok a ↔
      ∃ name, members = [(name, .null)] ∧ choose alternatives name = .ok a := by
  match members with
  | [] => exact ⟨nofun, nofun⟩
  | [(name, v)] =>
    rw [choiceOf, bind_eq_ok_iff]
    constructor
    · rintro ⟨b, chosen, read⟩
      cases v with
      | null =>
        cases read
        exact ⟨name, rfl, chosen⟩
      | _ => cases read
    · rintro ⟨_, ⟨⟩, chosen⟩
      exact ⟨a, chosen, rfl⟩
  | _ :: _ :: _ => exact ⟨nofun, nofun⟩

theorem choiceOf_operators_iff {v : Json} (distinct : v.distinct = true) (o : Operator) :
    choiceOf operators v = .ok o ↔ IsOperator v o := by
  cases v with
  | string word =>
    rw [choiceOf, choose_operators_iff]
    constructor
    · rintro rfl
      exact .word o
    · rintro ⟨⟩
      rfl
  | object members =>
    obtain ⟨nodup, -⟩ := (Json.distinct_object_iff members).1 distinct
    rw [choiceOf_object_iff, isOperator_object_iff, Json.sole_iff_of_nodup nodup]
    simp only [choose_operators_iff, exists_eq_right]
  | null => exact ⟨nofun, nofun⟩
  | bool b => exact ⟨nofun, nofun⟩
  | number n => exact ⟨nofun, nofun⟩
  | array items => exact ⟨nofun, nofun⟩

/-- Going through members with different names one by one fills a draft as what the names are bound
to says, if each member adds to what the members before it were bound to. -/
theorem foldlM_eq_ok_iff {put : σ → String × Json → Except Fault σ} {start : σ}
    {Filled : List (String × Json) → σ → Prop} (empty : ∀ s, Filled [] s ↔ s = start)
    (step : ∀ ms m s', bound? m.1 ms = none →
      (Filled (ms ++ [m]) s' ↔ ∃ s, Filled ms s ∧ put s m = .ok s'))
    (nodup : (members.map Prod.fst).Nodup) (s : σ) :
    members.foldlM put start = .ok s ↔ Filled members s := by
  induction members using List.reverseRecOn generalizing s with
  | nil =>
    rw [empty]
    constructor
    · rintro ⟨⟩
      rfl
    · rintro rfl
      rfl
  | append_singleton ms m ih =>
    obtain ⟨nodup, fresh⟩ := Json.nodup_append_single nodup
    rw [List.foldlM_append, bind_eq_ok_iff, step ms m s fresh]
    simp only [ih nodup, List.foldlM_cons, List.foldlM_nil, bind_pure]

/-- The word of a field of a leaf. -/
def LeafField.word : LeafField → String
  | name => "name"
  | operator => "match"
  | value => "value"

theorem LeafField.ofName?_eq_some {word : String} {field : LeafField} :
    ofName? word = some field ↔ word = field.word := by
  constructor
  · intro found
    rw [ofName?.eq_def] at found
    split at found <;> cases found <;> rfl
  · rintro rfl
    cases field <;> rfl

namespace LeafDraft

/-- Each field holds what its name is bound to. -/
structure Filled (members : List (String × Json)) (d : LeafDraft) : Prop where
  name : Option.Rel (stringOf · = .ok ·) (bound? "name" members) d.name?
  operator : Option.Rel (choiceOf operators · = .ok ·) (bound? "match" members) d.operator?
  value : Option.Rel (valueOf · = .ok ·) (bound? "value" members) d.value?

theorem filled_iff (d : LeafDraft) : Filled members d ↔
    Option.Rel (stringOf · = .ok ·) (bound? "name" members) d.name? ∧
      Option.Rel (choiceOf operators · = .ok ·) (bound? "match" members) d.operator? ∧
        Option.Rel (valueOf · = .ok ·) (bound? "value" members) d.value? :=
  ⟨fun ⟨name, operator, value⟩ => ⟨name, operator, value⟩,
    fun ⟨name, operator, value⟩ => ⟨name, operator, value⟩⟩

/-- A member that belongs to a field fills it, if it was empty; another member is passed over. -/
theorem putMember_eq_ok_iff {d d' : LeafDraft} (word : String) (v : Json) :
    d.putMember (word, v) = .ok d' ↔
      match LeafField.ofName? word with
      | none => d' = d
      | some .name =>
        d.name? = none ∧ ∃ s, stringOf v = .ok s ∧ d' = { d with name? := some s }
      | some .operator =>
        d.operator? = none ∧ ∃ o, choiceOf operators v = .ok o ∧ d' = { d with operator? := some o }
      | some .value =>
        d.value? = none ∧ ∃ a, valueOf v = .ok a ∧ d' = { d with value? := some a } := by
  cases field : LeafField.ofName? word with
  | none => simp only [putMember, field, Except.ok.injEq, eq_comm]
  | some f =>
    cases f with
    | name =>
      simp only [putMember, field, bind_eq_ok_iff, pure_eq_ok_iff, check, unless_isSome_eq_ok_iff,
        exists_const]
    | operator =>
      simp only [putMember, field, bind_eq_ok_iff, pure_eq_ok_iff, check, unless_isSome_eq_ok_iff,
        exists_const]
    | value =>
      simp only [putMember, field, bind_eq_ok_iff, pure_eq_ok_iff, check, unless_isSome_eq_ok_iff,
        exists_const]

theorem filled_append_iff {ms : List (String × Json)} {word : String} {v : Json}
    (fresh : bound? word ms = none) (d' : LeafDraft) :
    Filled (ms ++ [(word, v)]) d' ↔ ∃ d, Filled ms d ∧ d.putMember (word, v) = .ok d' := by
  simp only [putMember_eq_ok_iff, filled_iff, Json.bound?_append_single]
  cases field : LeafField.ofName? word with
  | none =>
    have other (f : LeafField) : word ≠ f.word := by
      rintro rfl
      rw [LeafField.ofName?_eq_some.2 rfl] at field
      cases field
    simp only [if_neg (show word ≠ "name" from other .name),
      if_neg (show word ≠ "match" from other .operator),
      if_neg (show word ≠ "value" from other .value), exists_eq_right']
  | some f =>
    obtain rfl := LeafField.ofName?_eq_some.1 field
    cases f with
    | name =>
      change bound? "name" ms = none at fresh
      simp only [LeafField.word, if_true, String.reduceEq, if_false, fresh, rel_some_iff]
      constructor
      · rintro ⟨⟨s, read, found⟩, operator, value⟩
        refine ⟨{ d' with name? := none }, ⟨rel_none_iff.2 rfl, operator, value⟩, rfl, s, read, ?_⟩
        rw [← found]
      · rintro ⟨d, ⟨-, operator, value⟩, -, s, read, rfl⟩
        exact ⟨⟨s, read, rfl⟩, operator, value⟩
    | operator =>
      change bound? "match" ms = none at fresh
      simp only [LeafField.word, if_true, String.reduceEq, if_false, fresh, rel_some_iff]
      constructor
      · rintro ⟨name, ⟨o, read, found⟩, value⟩
        refine ⟨{ d' with operator? := none }, ⟨name, rel_none_iff.2 rfl, value⟩, rfl, o, read, ?_⟩
        rw [← found]
      · rintro ⟨d, ⟨name, -, value⟩, -, o, read, rfl⟩
        exact ⟨name, ⟨o, read, rfl⟩, value⟩
    | value =>
      change bound? "value" ms = none at fresh
      simp only [LeafField.word, if_true, String.reduceEq, if_false, fresh, rel_some_iff]
      constructor
      · rintro ⟨name, operator, a, read, found⟩
        refine ⟨{ d' with value? := none }, ⟨name, operator, rel_none_iff.2 rfl⟩, rfl, a, read, ?_⟩
        rw [← found]
      · rintro ⟨d, ⟨name, operator, -⟩, -, a, read, rfl⟩
        exact ⟨name, operator, a, read, rfl⟩

theorem foldlM_putMember_iff (nodup : (members.map Prod.fst).Nodup) (d : LeafDraft) :
    members.foldlM putMember {} = .ok d ↔ Filled members d := by
  refine foldlM_eq_ok_iff (fun d => ?_) (fun ms m d' fresh => filled_append_iff fresh d') nodup d
  obtain ⟨name?, operator?, value?⟩ := d
  simp only [filled_iff, bound?, rel_none_iff, LeafDraft.mk.injEq]

theorem finish_eq_ok_iff (d : LeafDraft) (l : Leaf) :
    d.finish = .ok l ↔
      ∃ value?, l.value = Value.ofOption value? ∧
        d = { name? := some l.name, operator? := some l.operator, value? := value? } := by
  obtain ⟨name?, operator?, value?⟩ := d
  obtain ⟨name, o, value⟩ := l
  cases name? with
  | none => exact ⟨nofun, nofun⟩
  | some s =>
    cases operator? with
    | none => exact ⟨nofun, nofun⟩
    | some p =>
      constructor
      · rintro ⟨⟩
        exact ⟨value?, rfl, rfl⟩
      · rintro ⟨_, same, ⟨⟩⟩
        obtain rfl : value = Value.ofOption value? := same
        rfl

end LeafDraft

theorem rel_right_iff {R : Json → α → Prop} {found : Option Json} {a : α} :
    Option.Rel R found (some a) ↔ ∃ v, found = some v ∧ R v a := by
  cases found with
  | none => exact ⟨nofun, nofun⟩
  | some v => simp [Option.rel_some_some]

/-- What is bound and reads as a string is the string. -/
theorem rel_stringOf_iff (found : Option Json) (s : String) :
    Option.Rel (stringOf · = .ok ·) found (some s) ↔ found = some (.string s) := by
  simp only [rel_right_iff, stringOf_eq_ok_iff, exists_eq_right]

theorem isOptional_iff (found : Option Json) (value : Value) :
    IsOptional found value ↔
      ∃ value?, Option.Rel (valueOf · = .ok ·) found value? ∧ value = Value.ofOption value? := by
  cases found with
  | none => simp [IsOptional, rel_none_iff, Value.ofOption]
  | some v => simp [IsOptional, rel_some_iff, valueOf_eq_ok_iff, Value.ofOption]

theorem leafOf_object_iff (nodup : (members.map Prod.fst).Nodup)
    (distinct : ∀ m ∈ members, m.2.distinct = true) (l : Leaf) :
    leafOf (.object members) = .ok l ↔ IsLeaf (.object members) l := by
  have operator : Option.Rel (choiceOf operators · = .ok ·) (bound? "match" members)
      (some l.operator) ↔ ∃ v, bound? "match" members = some v ∧ IsOperator v l.operator := by
    rw [rel_right_iff]
    refine exists_congr fun v => and_congr_right fun found => ?_
    exact choiceOf_operators_iff (distinct _ (Json.mem_of_bound? found)) l.operator
  rw [leafOf, bind_eq_ok_iff, isLeaf_object_iff]
  simp only [LeafDraft.foldlM_putMember_iff nodup, LeafDraft.finish_eq_ok_iff]
  constructor
  · rintro ⟨_, filled, value?, same, rfl⟩
    have expected := (isOptional_iff _ _).2 ⟨value?, filled.value, same⟩
    exact ⟨(rel_stringOf_iff _ _).1 filled.name, operator.1 filled.operator, expected⟩
  · rintro ⟨named, matched, expected⟩
    obtain ⟨value?, value, same⟩ := (isOptional_iff _ _).1 expected
    exact ⟨_, ⟨(rel_stringOf_iff _ _).2 named, operator.2 matched, value⟩, value?, same, rfl⟩

/-- A list of fields needs a name and an operator, and holds no more than a value besides. -/
theorem leafOf_array_iff {items : List Json} (distinct : ∀ v ∈ items, v.distinct = true)
    (l : Leaf) : leafOf (.array items) = .ok l ↔ IsLeaf (.array items) l := by
  rw [leafOf, isLeaf_array_iff]
  obtain _ | ⟨n, _ | ⟨o, _ | ⟨v, _ | ⟨w, rest⟩⟩⟩⟩ := items
  · constructor
    · intro read
      cases read
    · rintro ⟨-, named, -⟩
      cases named
  · constructor
    · intro read
      obtain ⟨name, -, read⟩ := bind_eq_ok_iff.1 read
      cases read
    · rintro ⟨-, -, ⟨v, found, -⟩, -⟩
      cases found
  · have operator := choiceOf_operators_iff (distinct o (by simp))
    simp only [leafOfItems, bind_eq_ok_iff, pure_eq_ok_iff, stringOf_eq_ok_iff, operator]
    constructor
    · rintro ⟨name, rfl, p, matched, rfl⟩
      exact ⟨Nat.le_succ 2, rfl, ⟨o, rfl, matched⟩, rfl⟩
    · rintro ⟨-, named, ⟨_, ⟨⟩, matched⟩, expected⟩
      obtain ⟨name, p, value⟩ := l
      obtain rfl : value = .null := expected
      exact ⟨name, Option.some.inj named, p, matched, rfl⟩
  · have operator := choiceOf_operators_iff (distinct o (by simp))
    simp only [leafOfItems, bind_eq_ok_iff, pure_eq_ok_iff, stringOf_eq_ok_iff, operator,
      valueOf_eq_ok_iff, List.isEmpty_nil, if_true]
    constructor
    · rintro ⟨name, rfl, p, matched, value, expected, rfl⟩
      exact ⟨Nat.le_refl 3, rfl, ⟨o, rfl, matched⟩, expected⟩
    · rintro ⟨-, named, ⟨_, ⟨⟩, matched⟩, expected⟩
      exact ⟨l.name, Option.some.inj named, l.operator, matched, l.value, expected, rfl⟩
  · constructor
    · intro read
      obtain ⟨name, -, read⟩ := bind_eq_ok_iff.1 read
      obtain ⟨p, -, read⟩ := bind_eq_ok_iff.1 read
      obtain ⟨value, -, read⟩ := bind_eq_ok_iff.1 read
      cases read
    · rintro ⟨short, -⟩
      simp only [List.length_cons] at short
      omega

theorem leafOf_eq_ok_iff {v : Json} (distinct : v.distinct = true) (l : Leaf) :
    leafOf v = .ok l ↔ IsLeaf v l := by
  cases v with
  | object members =>
    obtain ⟨nodup, each⟩ := (Json.distinct_object_iff members).1 distinct
    exact leafOf_object_iff nodup each l
  | array items =>
    rw [Json.distinct, Json.distinctItems_iff] at distinct
    exact leafOf_array_iff distinct l
  | null => exact ⟨nofun, nofun⟩
  | bool b => exact ⟨nofun, nofun⟩
  | number n => exact ⟨nofun, nofun⟩
  | string s => exact ⟨nofun, nofun⟩

end Targeting.Stored

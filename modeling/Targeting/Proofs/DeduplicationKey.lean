import Targeting.Proofs.Correspondence
import Targeting.Proofs.Reach
import Targeting.Proofs.Sharing
import Targeting.Stored.Encode
import Targeting.Json.Writer

/-!
# Equality as the key of shared conditions

Equality of conditions goes by shape and by leaves, and that of numbers by their bits, so that a NaN
equals itself and the two zeros differ (`Condition.beq_iff`). Nothing that can be seen of a
condition depends on what the caches hold when it is looked at
(`Condition.indistinguishable_self`), and what is shared for a condition equals it. So a shared
condition can stand for every condition that equals it (`Condition.equality_is_a_key`).
-/

set_option autoImplicit false

namespace Targeting

open Session

/-- The same value: of one kind, a number bit by bit. -/
inductive Value.Identical : Value → Value → Prop
  | null : Identical null null
  | flag (b : Bool) : Identical (flag b) (flag b)
  | number {x y : Binary64} (bits : x.bits = y.bits) : Identical (number x) (number y)
  | text (s : String) : Identical (text s) (text s)

theorem Value.identical_iff (v w : Value) : v.Identical w ↔ v = w := by
  constructor
  · intro same
    cases same with
    | number bits => exact congrArg (fun bits => number ⟨bits⟩) bits
    | _ => rfl
  · rintro rfl
    cases v with
    | null => exact .null
    | flag b => exact .flag b
    | number x => exact .number rfl
    | text s => exact .text s

/-- The same test: of one name by one operator against the same value. -/
structure Leaf.Identical (l m : Leaf) : Prop where
  name : l.name = m.name
  operator : l.operator = m.operator
  value : l.value.Identical m.value

theorem Leaf.beq_iff (l m : Leaf) : (l == m) = true ↔ l.Identical m := by
  rw [beq_iff_eq]
  constructor
  · rintro rfl
    exact ⟨rfl, rfl, (Value.identical_iff l.value l.value).2 rfl⟩
  · rintro ⟨name, operator, value⟩
    rw [Value.identical_iff] at value
    rcases l with ⟨n, o, v⟩
    rcases m with ⟨n', o', v'⟩
    cases name
    cases operator
    cases value
    rfl

namespace Condition

mutual

/-- **Conditions are equal** if they have the same shape and the same leaves in the same places. -/
theorem beq_iff : (c d : Condition) → beq c d = true ↔ c.Corresponds Leaf.Identical d
  | and cs, d => by
    cases d with
    | and ds =>
      rw [beq, beqList_iff cs ds]
      exact ⟨.and, fun | .and parts => parts⟩
    | _ => exact ⟨nofun, nofun⟩
  | or cs, d => by
    cases d with
    | or ds =>
      rw [beq, beqList_iff cs ds]
      exact ⟨.or, fun | .or parts => parts⟩
    | _ => exact ⟨nofun, nofun⟩
  | not c, d => by
    cases d with
    | not d =>
      rw [beq, beq_iff c d]
      exact ⟨.not, fun | .not part => part⟩
    | _ => exact ⟨nofun, nofun⟩
  | leaf l, d => by
    cases d with
    | leaf m =>
      rw [beq, l.beq_iff m]
      exact ⟨.leaf, fun | .leaf same => same⟩
    | _ => exact ⟨nofun, nofun⟩

theorem beqList_iff : (cs ds : List Condition) →
    beqList cs ds = true ↔ List.Forall₂ (Corresponds Leaf.Identical) cs ds
  | [], ds => by
    cases ds with
    | nil => exact ⟨fun _ => .nil, fun _ => rfl⟩
    | cons d ds => exact ⟨nofun, nofun⟩
  | c :: cs, ds => by
    cases ds with
    | nil => exact ⟨nofun, nofun⟩
    | cons d ds => rw [beqList, Bool.and_eq_true, beq_iff c d, beqList_iff cs ds, List.forall₂_cons]

end

section AnyEngine

variable [Engine]

/-- Nothing tells two conditions apart, even where each is used in a session of its own, after
whatever happened there. -/
structure Indistinguishable (c d : Condition) : Prop where
  display : c.display = d.display
  stored : c.toJson.text = d.toJson.text
  size : c.size = d.size
  depth : c.depth = d.depth
  validated (before before' : List Operation) :
    (c.validate (start.after before).caches.patterns).result =
      (d.validate (start.after before').caches.patterns).result
  evaluated (before before' : List Operation) (look : String → Option Value) :
    (c.evaluate look (start.after before).caches.patterns).result =
      (d.evaluate look (start.after before').caches.patterns).result
  lookups (before before' : List Operation) (look : String → Option Value) :
    lookups (c.evaluate look (start.after before).caches.patterns).events =
      lookups (d.evaluate look (start.after before').caches.patterns).events

/-- What is seen of a condition does not depend on what a session did before. -/
theorem indistinguishable_self (c : Condition) : c.Indistinguishable c where
  display := rfl
  stored := rfl
  size := rfl
  depth := rfl
  validated before before' := by
    rw [result_validate (sound_after before), result_validate (sound_after before')]
  evaluated before before' look := by
    rw [result_evaluate look (sound_after before), result_evaluate look (sound_after before')]
  lookups before before' look := by
    rw [lookups_evaluate (sound_after before), lookups_evaluate (sound_after before')]

/-- **Equality is a sound key for shared conditions.** It is an equivalence, and holds exactly where
shape, names, operators and values agree, a number bit by bit. Conditions that are equal have equal
hashes and nothing tells them apart; what is shared for one of them, after whatever a session did
before, equals the other and cannot be told from it. -/
theorem equality_is_a_key :
    Equivalence (fun a b : Condition => (a == b) = true) ∧
    (∀ a b : Condition, (a == b) = true ↔ a.Corresponds Leaf.Identical b) ∧
    ∀ a b : Condition, (a == b) = true →
      a.hash = b.hash ∧ a.Indistinguishable b ∧
      ∀ ops : List Operation,
        let shared := ((start.after ops).caches.conditions.intern a).1.condition
        (shared == b) = true ∧ shared.Indistinguishable b := by
  refine ⟨⟨?_, ?_, ?_⟩, beq_iff, ?_⟩
  · exact beq_refl
  · intro a b equal
    exact BEq.symm equal
  · intro a b c first second
    exact PartialEquivBEq.trans first second
  · intro a b equal
    obtain rfl : a = b := eq_of_beq a b equal
    refine ⟨rfl, a.indistinguishable_self, ?_⟩
    intro ops shared
    have same : shared = a := (faithful_after ops).intern_condition a
    rw [same]
    exact ⟨beq_refl a, a.indistinguishable_self⟩

end AnyEngine

/-- A rule that expects a NaN equals its copy and is shared with it, though not with a rule that
expects another NaN. -/
theorem nan_rule_is_shared :
    let rule (bits : UInt64) : Condition :=
      .or [.exact "score" (.number ⟨bits⟩), .not (.present "plan")]
    let ops : List Operation := [.intern (rule 0xfff8000000000001), .validate (rule 0)]
    let shared :=
      ((start.after ops).caches.conditions.intern (rule 0xfff8000000000001)).1.condition
    (rule 0xfff8000000000001 == rule 0xfff8000000000001) = true ∧
      (shared == rule 0xfff8000000000001) = true ∧
      shared.Indistinguishable (rule 0xfff8000000000001) ∧
      (rule 0xfff8000000000001 == rule 0x7ff8000000000000) = false := by
  intro rule ops shared
  have equal : (rule 0xfff8000000000001 == rule 0xfff8000000000001) = true := by decide
  obtain ⟨-, -, alike⟩ := equality_is_a_key.2.2 _ _ equal
  obtain ⟨same, stands⟩ := alike ops
  exact ⟨equal, same, stands, by decide⟩

end Condition

end Targeting

import Targeting.Proofs.ExactOrder
import Targeting.Proofs.Reach
import Targeting.Proofs.StoredText

/-!
# A stored rule means the same when it is read back

A number that is not finite is null after it was stored, and to every operator the two are alike: it
compares nothing with either (`Leaf.compareAfresh_stored`). So each leaf that comes back stands for the
one that was stored, and with all its leaves the rule (`Condition.mapLeaves_evaluatesAs`): it is
evaluated and validated as the one that was stored, although it can be another rule.

From a text the numbers come back reread, which changes nothing for an operator that compares no
numbers, and nothing for validation (`Leaf.reread_standsFor`, `Leaf.check_reread_eq_ok_iff`). So the
rule read from a text means the same where the numbers that it compares with are reread as themselves
(`Stored.reloaded_rule_means_the_same`); one that is not can change a decision
(`Stored.reread_price_decides_otherwise`).
-/

set_option autoImplicit false

namespace Targeting

namespace Value

/-- A value is stored as it is, unless it is a number that nothing compares with; that is stored as
null. -/
theorem stored_eq_self_or (v : Value) :
    v.stored = v ∨ v.stored = .null ∧ v.asText? = none ∧ v.asFlag? = none ∧ v.asFinite? = none := by
  cases v with
  | number x =>
    cases finite : x.isFinite with
    | true =>
      left
      rw [stored, if_pos finite]
    | false =>
      right
      refine ⟨?_, rfl, rfl, ?_⟩
      · rw [stored, if_neg (by simp [finite])]
      · rw [asFinite?, if_neg (by simp [finite])]
  | _ => exact .inl rfl

@[simp] theorem asText?_stored (v : Value) : v.stored.asText? = v.asText? := by
  rcases v.stored_eq_self_or with same | ⟨null, noText, -⟩
  · rw [same]
  · rw [null, noText]
    rfl

@[simp] theorem asFlag?_stored (v : Value) : v.stored.asFlag? = v.asFlag? := by
  rcases v.stored_eq_self_or with same | ⟨null, -, noFlag, -⟩
  · rw [same]
  · rw [null, noFlag]
    rfl

@[simp] theorem asFinite?_stored (v : Value) : v.stored.asFinite? = v.asFinite? := by
  rcases v.stored_eq_self_or with same | ⟨null, -, -, notFinite⟩
  · rw [same]
  · rw [null, notFinite]
    rfl

@[simp] theorem asText?_reread (v : Value) : v.reread.asText? = v.asText? := by
  cases v <;> rfl

@[simp] theorem asFlag?_reread (v : Value) : v.reread.asFlag? = v.asFlag? := by
  cases v <;> rfl

/-- A value that holds a finite number holds one after it was reread. -/
theorem isSome_asFinite?_reread (v : Value) : v.reread.asFinite?.isSome = v.asFinite?.isSome := by
  cases v with
  | number x =>
    rw [reread, asFinite?, asFinite?, Binary64.isFinite_reread]
    cases x.isFinite <;> rfl
  | _ => rfl

end Value

namespace Operator

/-- An operator takes what is left of a value exactly if it takes the value. -/
theorem takes_stored (o : Operator) (v : Value) : o.takes v.stored = o.takes v := by
  cases o <;> simp only [takes, Value.asText?_stored, Value.asFlag?_stored, Value.asFinite?_stored]

/-- An operator takes a reread value exactly if it takes the value. -/
theorem takes_reread (o : Operator) (v : Value) : o.takes v.reread = o.takes v := by
  cases o <;> simp only [takes, Value.asText?_reread, Value.asFlag?_reread,
    Value.isSome_asFinite?_reread]

end Operator

namespace Leaf

theorem compare?_stored (actual expected : Value) :
    compare? actual expected.stored = compare? actual expected := by
  unfold compare?
  rw [Value.asFinite?_stored]

theorem equal?_stored (actual expected : Value) :
    equal? actual expected.stored = equal? actual expected := by
  rcases expected.stored_eq_self_or with same | ⟨null, noText, noFlag, notFinite⟩
  · rw [same]
  · rw [null, equal?_eq_none noText noFlag notFinite]
    exact equal?_eq_none rfl rfl rfl actual

/-- Leaves with one operator and one expected text look for the same pattern. -/
theorem pattern?_of_asText? {l m : Leaf} (operator : m.operator = l.operator)
    (text : m.value.asText? = l.value.asText?) : m.pattern? = l.pattern? := by
  unfold pattern?
  rw [operator, text]

variable [Engine]

/-- What is left of a leaf compares with the same answer. -/
theorem compareAfresh_stored (l : Leaf) (actual : Value) :
    l.stored.compareAfresh actual = l.compareAfresh actual := by
  unfold compareAfresh stored
  dsimp only
  cases l.operator <;> simp only [Value.asText?_stored, equal?_stored, compare?_stored]

/-- A leaf that compares no numbers compares with the same answer when it is reread. -/
theorem compareAfresh_reread {l : Leaf} (compares : l.operator.comparesNumbers = false)
    (actual : Value) : l.reread.compareAfresh actual = l.compareAfresh actual := by
  unfold compareAfresh reread
  dsimp only
  cases operator : l.operator with
  | present => rfl
  | substring | regex => simp only [Value.asText?_reread]
  | _ =>
    rw [operator] at compares
    cases compares

section Replacement

variable {l m : Leaf} (operator : m.operator = l.operator) (name : m.name = l.name)

include operator name

/-- Leaves that compare alike have the same verdict. -/
theorem verdict_of_compareAfresh
    (same : ∀ actual, m.compareAfresh actual = l.compareAfresh actual)
    (look : String → Option Value) : m.verdict look = l.verdict look := by
  unfold verdict
  simp only [operator, name, same]

/-- Leaves that take alike what they expect, and look for the same pattern, pass alike. -/
theorem check_eq_ok_iff_of_takes (takes : l.operator.takes m.value = l.operator.takes l.value)
    (text : m.value.asText? = l.value.asText?) : m.check = .ok () ↔ l.check = .ok () := by
  rw [check_eq_ok_iff, check_eq_ok_iff, pattern?_of_asText? operator text, name, operator, takes]

end Replacement

/-- On a source, one leaf can stand for another: it has the name and the verdict of the other and asks
for the same pattern. -/
structure StandsFor (look : String → Option Value) (m l : Leaf) : Prop where
  name : m.name = l.name
  verdict : m.verdict look = l.verdict look
  asks : m.asks? look = l.asks? look

variable {look : String → Option Value}

theorem StandsFor.trans {l m n : Leaf} (h : n.StandsFor look m) (h' : m.StandsFor look l) :
    n.StandsFor look l :=
  ⟨h.name.trans h'.name, h.verdict.trans h'.verdict, h.asks.trans h'.asks⟩

/-- A leaf stands for another that has its name and operator, compares alike and expects the same
text. -/
theorem standsFor_of_compareAfresh {l m : Leaf} (name : m.name = l.name)
    (operator : m.operator = l.operator) (text : m.value.asText? = l.value.asText?)
    (same : ∀ actual, m.compareAfresh actual = l.compareAfresh actual) : m.StandsFor look l where
  name := name
  verdict := verdict_of_compareAfresh operator name same look
  asks := by
    unfold asks?
    rw [name]
    refine congrArg (look l.name).bind (funext fun actual => ?_)
    rw [wants?_eq, wants?_eq, pattern?_of_asText? operator text]

/-- **What is left of a leaf stands for the leaf.** -/
theorem stored_standsFor (l : Leaf) : l.stored.StandsFor look l :=
  standsFor_of_compareAfresh rfl rfl l.value.asText?_stored l.compareAfresh_stored

/-- **A reread leaf stands for the leaf**, unless it compares with a number that is reread as
another. -/
theorem reread_standsFor {l : Leaf}
    (kept : l.operator.comparesNumbers = true → l.value.reread = l.value) :
    l.reread.StandsFor look l := by
  cases compares : l.operator.comparesNumbers with
  | true =>
    rw [l.reread_eq_self_iff.2 (kept compares)]
    exact ⟨rfl, rfl, rfl⟩
  | false =>
    exact standsFor_of_compareAfresh rfl rfl l.value.asText?_reread (compareAfresh_reread compares)

/-- What is left of a leaf passes exactly if the leaf passes. -/
theorem check_stored_eq_ok_iff (l : Leaf) : l.stored.check = .ok () ↔ l.check = .ok () :=
  check_eq_ok_iff_of_takes rfl rfl (l.operator.takes_stored l.value) l.value.asText?_stored

/-- A reread leaf passes exactly if the leaf passes. -/
theorem check_reread_eq_ok_iff (l : Leaf) : l.reread.check = .ok () ↔ l.check = .ok () :=
  check_eq_ok_iff_of_takes rfl rfl (l.operator.takes_reread l.value) l.value.asText?_reread

end Leaf

namespace Condition

section Replacement

variable {value : Leaf → Verdict} {f : Leaf → Leaf}

-- Every leaf has the verdict of the one it replaces, so the loops stop at the same parts.
mutual

/-- Leaves are replaced by others of the same value: so is the condition. -/
theorem kleene_mapLeaves : (c : Condition) → (∀ l ∈ c.leaves, value (f l) = value l) →
    (c.mapLeaves f).kleene value = c.kleene value
  | and parts, same => by rw [mapLeaves, kleene, kleene, kleenes_mapLeaves parts same]
  | or parts, same => by rw [mapLeaves, kleene, kleene, kleenes_mapLeaves parts same]
  | not part, same => by rw [mapLeaves, kleene, kleene, kleene_mapLeaves part same]
  | leaf l, same => same l (List.mem_singleton_self l)

theorem kleenes_mapLeaves : (parts : List Condition) →
    (∀ l ∈ leavesList parts, value (f l) = value l) →
    kleenes value (mapLeavesList f parts) = kleenes value parts
  | [], _ => rfl
  | part :: parts, same => by
    obtain ⟨first, others⟩ := List.forall_mem_append.1 same
    rw [mapLeavesList, kleenes, kleenes, kleene_mapLeaves part first,
      kleenes_mapLeaves parts others]

end

mutual

/-- Leaves are replaced by others of the same value: the replaced ones are reached. -/
theorem reached_mapLeaves : (c : Condition) → (∀ l ∈ c.leaves, value (f l) = value l) →
    (c.mapLeaves f).reached value = (c.reached value).map f
  | and parts, same => by rw [mapLeaves, reached, reached, reachedUpTo_mapLeaves .no parts same]
  | or parts, same => by rw [mapLeaves, reached, reached, reachedUpTo_mapLeaves .yes parts same]
  | not part, same => by rw [mapLeaves, reached, reached, reached_mapLeaves part same]
  | leaf l, _ => rfl

theorem reachedUpTo_mapLeaves (settling : Verdict) : (parts : List Condition) →
    (∀ l ∈ leavesList parts, value (f l) = value l) →
    reachedUpTo value settling (mapLeavesList f parts) =
      (reachedUpTo value settling parts).map f
  | [], _ => rfl
  | part :: parts, same => by
    obtain ⟨first, others⟩ := List.forall_mem_append.1 same
    rw [mapLeavesList, reachedUpTo, reachedUpTo, List.map_append, reached_mapLeaves part first,
      kleene_mapLeaves part first, reachedUpTo_mapLeaves settling parts others]
    split <;> rfl

end

end Replacement

variable [Engine]

/-- On a source, evaluating one condition on one cache comes to the same as evaluating another on
another: the verdict, the names that are looked up and the patterns that are asked for, in order. -/
structure EvaluatesAs (look : String → Option Value) (d : Condition) (kept : PatternCache)
    (c : Condition) (cache : PatternCache) : Prop where
  result : (d.evaluate look kept).result = (c.evaluate look cache).result
  lookups : lookups (d.evaluate look kept).events = lookups (c.evaluate look cache).events
  requests : requests (d.evaluate look kept).events = requests (c.evaluate look cache).events

variable {cache kept : PatternCache} (sound : cache.Sound) (sound' : kept.Sound)

include sound sound'

/-- **A condition whose leaves stand for those of another is evaluated as the other.** -/
theorem mapLeaves_evaluatesAs {look : String → Option Value} {f : Leaf → Leaf} {c : Condition}
    (each : ∀ l ∈ c.leaves, (f l).StandsFor look l) :
    (c.mapLeaves f).EvaluatesAs look kept c cache := by
  have same : ∀ l ∈ c.leaves, (f l).verdict look = l.verdict look :=
    fun l among => (each l among).verdict
  have reached := reached_mapLeaves c same
  constructor
  · rw [result_eq_kleene look sound', result_eq_kleene look sound, kleene_mapLeaves c same]
  · rw [lookups_evaluate sound', lookups_evaluate sound, reached, List.map_map]
    exact List.map_congr_left fun l among => (each l (mem_leaves_of_mem_reached c among)).name
  · rw [requests_evaluate sound', requests_evaluate sound, asks, asks, reached, List.filterMap_map]
    exact List.filterMap_congr fun l among => (each l (mem_leaves_of_mem_reached c among)).asks

/-- Where every leaf passes exactly if the one it replaces passes, so does the condition. -/
theorem result_validate_mapLeaves {f : Leaf → Leaf} (c : Condition)
    (each : ∀ l, (f l).check = .ok () ↔ l.check = .ok ()) :
    ((c.mapLeaves f).validate kept).result = .ok () ↔ (c.validate cache).result = .ok () := by
  rw [result_validate sound', result_validate sound, check_eq_ok_iff, check_eq_ok_iff,
    leaves_mapLeaves, List.forall_mem_map]
  simp only [each]

end Condition

namespace Stored

open Session

section AnyEngine

variable [Engine]

/-- **A rule that comes back means the same.** Whatever a session did before, and another one before
the rule came back: the rule that comes back from the stored form gives the verdict of the rule that
was stored for every source, looks up the same names and asks for the same patterns in the same order.
So does the rule that comes back from the text, if the numbers that leaves compare with are reread as
themselves. Both pass validation exactly if the rule that was stored passes. -/
theorem reloaded_rule_means_the_same (c : Condition) :
    ∃ d e : Condition, Reloads Condition.ofJson Condition.ofText c.toJson d e ∧
      ∀ before after : List Operation,
        let cache := (start.after before).caches.patterns
        let kept := (start.after after).caches.patterns
        (∀ look, d.EvaluatesAs look kept c cache) ∧
        ((∀ l ∈ c.leaves, l.operator.comparesNumbers = true → l.value.reread = l.value) →
          ∀ look, e.EvaluatesAs look kept c cache) ∧
        ((d.validate kept).result = .ok () ↔ (c.validate cache).result = .ok ()) ∧
        ((e.validate kept).result = .ok () ↔ (c.validate cache).result = .ok ()) := by
  refine ⟨c.stored, c.reread.stored, condition_reloads c, ?_⟩
  intro before after cache kept
  have sound : cache.Sound := sound_after before
  have sound' : kept.Sound := sound_after after
  have both : c.reread.stored = c.mapLeaves (Leaf.stored ∘ Leaf.reread) :=
    c.mapLeaves_mapLeaves Leaf.reread Leaf.stored
  rw [both]
  refine ⟨fun look => ?_, fun same look => ?_, ?_, ?_⟩
  · exact Condition.mapLeaves_evaluatesAs sound sound' fun l _ => l.stored_standsFor
  · exact Condition.mapLeaves_evaluatesAs sound sound' fun l among =>
      l.reread.stored_standsFor.trans (Leaf.reread_standsFor (same l among))
  · exact c.result_validate_mapLeaves sound sound' Leaf.check_stored_eq_ok_iff
  · exact c.result_validate_mapLeaves sound sound' fun l =>
      l.reread.check_stored_eq_ok_iff.trans l.check_reread_eq_ok_iff

end AnyEngine

/-- An age of eighteen and a half comes back as itself and an infinite score as null, and the rule with
them means what it meant. -/
theorem infinite_score_means_the_same :
    let rule (score : Value) : Condition :=
      .or [.test "age" .ge (.number ⟨0x4032800000000000⟩), .not (.test "score" .lt score),
        .test "name" .regex (.text "^a")]
    let infinite : Condition := rule (.number (.infinity false))
    (∀ l ∈ infinite.leaves, l.operator.comparesNumbers = true → l.value.reread = l.value) ∧
    Condition.ofText infinite.toJson.text = .ok (rule .null) ∧
    ∀ look, (rule .null).EvaluatesAs look start.caches.patterns infinite start.caches.patterns := by
  intro rule infinite
  have halfKept : (⟨0x4032800000000000⟩ : Binary64).reread = ⟨0x4032800000000000⟩ :=
    Binary64.reread_eq_self_of_short (s := ⟨['1', '8'], ['5'], none⟩) (by decide)
      ⟨by decide, by decide +kernel, by decide, by decide⟩
  have kept : ∀ l ∈ infinite.leaves, l.value.reread = l.value :=
    List.forall_mem_cons.2 ⟨congrArg Value.number halfKept,
      List.forall_mem_cons.2 ⟨rfl, List.forall_mem_singleton.2 rfl⟩⟩
  have left : infinite.stored = rule .null := rfl
  have read : Condition.ofText infinite.toJson.text = .ok (rule .null) := by
    have text := (condition_reloads infinite).text (by decide)
    rw [infinite.reread_eq_self_iff.2 kept, left] at text
    exact text
  obtain ⟨d, e, reloads, means⟩ := reloaded_rule_means_the_same infinite
  have comesBack : e = rule .null := by
    have text := reloads.text (by decide)
    rw [read] at text
    exact (Except.ok.inj text).symm
  subst comesBack
  have enough : ∀ l ∈ infinite.leaves, l.operator.comparesNumbers = true →
      l.value.reread = l.value := fun l among _ => kept l among
  exact ⟨enough, read, (means [] []).2.1 enough⟩

/-- A price of `1.1 * 100` is reread as 110, and a user with a price of 110 goes from no to yes. -/
theorem reread_price_decides_otherwise :
    let rule (bound : Binary64) : Condition := .test "price" .ge (.number bound)
    let price : Binary64 := ⟨0x405b800000000001⟩
    let fewer : Binary64 := ⟨0x405b800000000000⟩
    let user : Attributes := Table.empty.insert "price" (.number fewer)
    (rule price).toJson.nesting ≤ Json.nestingLimit ∧
    Condition.ofText (rule price).toJson.text = .ok (rule fewer) ∧
    ((rule price).evaluate user.find? start.caches.patterns).result = .no ∧
    ((rule fewer).evaluate user.find? start.caches.patterns).result = .yes := by
  exact ⟨by decide, by decide +kernel, by decide +kernel, by decide +kernel⟩

end Stored

end Targeting

import Mathlib.Data.List.Pairwise
import Targeting.Evaluation
import Targeting.Pattern.Compile

/-!
# Evaluation depends only on what it looks up

Evaluating a condition on another source goes the same way, step by step, as long as the second
source knows the same under every name that the first run looked up (`Condition.evaluate_congr`).
What it knows under other names plays no part, and an entry that is null is no entry. In particular
it makes no difference in which kind of store attributes are kept (`Attributes.lookup_toHashMap`,
`Attributes.lookup_toTreeMap`).
-/

set_option autoImplicit false

namespace Targeting

namespace Leaf

variable [Engine]

/-- A leaf sees of a source what is known under its name. -/
theorem evaluate_congr {look look' : String → Option Value} {l : Leaf}
    (same : known look l.name = known look' l.name) (cache : PatternCache) :
    l.evaluate look' cache = l.evaluate look cache := by
  unfold evaluate
  rw [same]

/-- A leaf looks up its name. -/
theorem mem_lookups_evaluate (look : String → Option Value) (l : Leaf) (cache : PatternCache) :
    l.name ∈ lookups (l.evaluate look cache).events := by
  unfold evaluate
  dsimp only
  split
  · exact List.mem_cons_self
  · split
    · exact List.mem_cons_self
    · split <;> exact List.mem_cons_self

end Leaf

/-- Two sources know the same under the names that were looked up. -/
def AgreeOn (events : List Event) (look look' : String → Option Value) : Prop :=
  ∀ name ∈ lookups events, known look name = known look' name

theorem agreeOn_append_iff (events later : List Event) (look look' : String → Option Value) :
    AgreeOn (events ++ later) look look' ↔
      AgreeOn events look look' ∧ AgreeOn later look look' := by
  unfold AgreeOn
  rw [lookups_append, List.forall_mem_append]

namespace Condition

variable [Engine]

variable {look look' : String → Option Value}

-- Each part runs as before by induction, so the loop goes the same way and leaves the same cache to
-- the parts after it; the names looked up by the parts that are never reached do not matter.
mutual

/-- **A run goes the same way on a source that knows the same of what was looked up.** -/
theorem evaluate_congr : (c : Condition) → (cache : PatternCache) →
    AgreeOn (c.evaluate look cache).events look look' →
      c.evaluate look' cache = c.evaluate look cache
  | and parts, cache, agree => evaluateAll_congr false parts cache agree
  | or parts, cache, agree => evaluateAny_congr false parts cache agree
  | not part, cache, agree => by
    have same := evaluate_congr part cache agree
    simp only [evaluate, same]
  | leaf l, cache, agree =>
    l.evaluate_congr (agree l.name (l.mem_lookups_evaluate look cache)) cache

theorem evaluateAll_congr : (unsure : Bool) → (parts : List Condition) → (cache : PatternCache) →
    AgreeOn (evaluateAll look unsure parts cache).events look look' →
      evaluateAll look' unsure parts cache = evaluateAll look unsure parts cache
  | _, [], _, _ => rfl
  | unsure, part :: parts, cache, agree => by
    simp only [evaluateAll] at agree ⊢
    cases settled : (evaluate look part cache).result with
    | no =>
      simp only [settled] at agree
      have first := evaluate_congr part cache agree
      simp only [first, settled]
    | unknown =>
      simp only [settled, Outcome.after_events, agreeOn_append_iff] at agree
      have first := evaluate_congr part cache agree.1
      have rest := evaluateAll_congr true parts _ agree.2
      simp only [first, settled, rest]
    | yes =>
      simp only [settled, Outcome.after_events, agreeOn_append_iff] at agree
      have first := evaluate_congr part cache agree.1
      have rest := evaluateAll_congr unsure parts _ agree.2
      simp only [first, settled, rest]

theorem evaluateAny_congr : (unsure : Bool) → (parts : List Condition) → (cache : PatternCache) →
    AgreeOn (evaluateAny look unsure parts cache).events look look' →
      evaluateAny look' unsure parts cache = evaluateAny look unsure parts cache
  | _, [], _, _ => rfl
  | unsure, part :: parts, cache, agree => by
    simp only [evaluateAny] at agree ⊢
    cases settled : (evaluate look part cache).result with
    | yes =>
      simp only [settled] at agree
      have first := evaluate_congr part cache agree
      simp only [first, settled]
    | unknown =>
      simp only [settled, Outcome.after_events, agreeOn_append_iff] at agree
      have first := evaluate_congr part cache agree.1
      have rest := evaluateAny_congr true parts _ agree.2
      simp only [first, settled, rest]
    | no =>
      simp only [settled, Outcome.after_events, agreeOn_append_iff] at agree
      have first := evaluate_congr part cache agree.1
      have rest := evaluateAny_congr unsure parts _ agree.2
      simp only [first, settled, rest]

end

end Condition

namespace Table

variable {κ ν : Type}

/-- The entries have different keys, two by two. -/
theorem pairwise_ne (t : Table κ ν) : t.entries.Pairwise fun e f => e.1 ≠ f.1 :=
  List.pairwise_map.1 t.distinct

variable [DecidableEq κ]

theorem mem_of_findIn {key : κ} {value : ν} {es : List (κ × ν)}
    (found : findIn key es = some value) : (key, value) ∈ es := by
  induction es with
  | nil => cases found
  | cons e es ih =>
    obtain ⟨k, v⟩ := e
    unfold findIn at found
    split at found
    · rename_i same
      cases found
      rw [same]
      exact List.mem_cons_self
    · exact List.mem_cons_of_mem _ (ih found)

theorem mem_entries_of_find? {t : Table κ ν} {key : κ} {value : ν}
    (found : t.find? key = some value) : (key, value) ∈ t.entries :=
  mem_of_findIn found

end Table

namespace Attributes

/-- Attributes are found in a hash map as in the table. -/
theorem lookup_toHashMap (a : Attributes) : Source.lookup a.toHashMap = Source.lookup a := by
  funext name
  have distinct : a.entries.Pairwise fun e f => (e.1 == f.1) = false :=
    a.pairwise_ne.imp fun differ => beq_eq_false_iff_ne.2 differ
  change (Std.HashMap.ofList a.entries)[name]? = a.find? name
  cases found : a.find? name with
  | some v =>
    exact Std.HashMap.getElem?_ofList_of_mem (beq_self_eq_true name) distinct
      (Table.mem_entries_of_find? found)
  | none =>
    have absent := (Table.find?_eq_none_iff a name).1 found
    exact Std.HashMap.getElem?_ofList_of_contains_eq_false (by simpa [Table.keys] using absent)

/-- Attributes are found in a search tree as in the table. -/
theorem lookup_toTreeMap (a : Attributes) : Source.lookup a.toTreeMap = Source.lookup a := by
  funext name
  have distinct : a.entries.Pairwise fun e f => ¬ compare e.1 f.1 = .eq :=
    a.pairwise_ne.imp fun differ equal => differ (Std.LawfulEqCmp.eq_of_compare equal)
  change (Std.TreeMap.ofList a.entries)[name]? = a.find? name
  cases found : a.find? name with
  | some v =>
    exact Std.TreeMap.getElem?_ofList_of_mem Std.ReflCmp.compare_self distinct
      (Table.mem_entries_of_find? found)
  | none =>
    have absent := (Table.find?_eq_none_iff a name).1 found
    exact Std.TreeMap.getElem?_ofList_of_contains_eq_false (by simpa [Table.keys] using absent)

end Attributes

namespace Condition

section AnyEngine

variable [Engine]

/-- **Evaluation depends only on what it looks up.** In every state of the pattern cache: if two
sources know the same under each name that evaluating on the first looks up, an entry that is null
counting as none, then evaluating on the second gives the same verdict, the same look-ups, the same
log and the same cache. In particular a hash map, a search tree and anything that passes look-ups on
do as well as the table of attributes. -/
theorem lookups_determine_outcome (c : Condition) (cache : PatternCache) :
    (∀ {σ τ : Type} [Source σ] [Source τ] (s : σ) (t : τ),
      (∀ name ∈ lookups (c.evaluateOn s cache).events,
        known (Source.lookup s) name = known (Source.lookup t) name) →
      (c.evaluateOn t cache).result = (c.evaluateOn s cache).result ∧
      lookups (c.evaluateOn t cache).events = lookups (c.evaluateOn s cache).events ∧
      log (c.evaluateOn t cache).events = log (c.evaluateOn s cache).events ∧
      (c.evaluateOn t cache).cache = (c.evaluateOn s cache).cache) ∧
    (∀ a : Attributes,
      c.evaluateOn a.toHashMap cache = c.evaluateOn a cache ∧
      c.evaluateOn a.toTreeMap cache = c.evaluateOn a cache ∧
      c.evaluateOn (Source.lookup a) cache = c.evaluateOn a cache) := by
  constructor
  · intro σ τ _ _ s t agree
    have same : c.evaluateOn t cache = c.evaluateOn s cache := c.evaluate_congr cache agree
    rw [same]
    exact ⟨rfl, rfl, rfl, rfl⟩
  · intro a
    refine ⟨?_, ?_, rfl⟩
    · rw [evaluateOn, a.lookup_toHashMap]
      rfl
    · rw [evaluateOn, a.lookup_toTreeMap]
      rfl

end AnyEngine

/-- The browser settles the first part, so it does not matter who is a tester; a country that is null
is as good as none. -/
theorem untested_names_do_not_matter :
    let c : Condition := .and [.or [.exact "browser" (.text "chrome"), .present "beta"],
      .exact "country" (.text "NZ")]
    let s : Attributes := Table.empty.insert "browser" (.text "chrome") |>.insert "country" .null
    let t (name : String) : Option Value :=
      if name = "browser" then some (.text "chrome")
      else if name = "beta" then some (.flag true)
      else none
    let o := c.evaluateOn s .empty
    let o' := c.evaluateOn t .empty
    (∀ name ∈ lookups o.events, known (Source.lookup s) name = known (Source.lookup t) name) ∧
    o'.result = o.result ∧ lookups o'.events = lookups o.events ∧ log o'.events = log o.events ∧
    o'.cache = o.cache := by
  intro c s t o o'
  have agree : ∀ name ∈ lookups o.events,
      known (Source.lookup s) name = known (Source.lookup t) name := by decide
  obtain ⟨outcome, -⟩ := lookups_determine_outcome c .empty
  exact ⟨agree, outcome s t agree⟩

end Condition

end Targeting

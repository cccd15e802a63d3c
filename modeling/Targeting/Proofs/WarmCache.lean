import Targeting.Proofs.Accounting
import Targeting.Proofs.CompiledOnce

/-!
# Validation warms the pattern cache

A cache is warm for patterns that it holds, compiled or refused; asking for them again changes
nothing and compiles nothing (`PatternCache.askAll_of_warm`, `PatternCache.tellAll_of_warm`). A
condition that passes validation was asked for every pattern that evaluation could ask for on any
source (`Condition.mem_checks_of_mem_asks`), and what a session holds it holds until the caches are
cleared. So from then on neither evaluation nor validation of that condition touches the cache
(`Session.warm_after_validation`).
-/

set_option autoImplicit false

namespace Targeting

namespace PatternCache

variable [Engine]

/-- The cache holds every one of the texts. -/
def Warm (cache : PatternCache) (texts : List String) : Prop :=
  ∀ text ∈ texts, (cache.table.find? text).isSome = true

variable {cache : PatternCache} {texts : List String}

theorem warm_cons {text : String} (warm : cache.Warm (text :: texts)) :
    (∃ held, cache.get text = ⟨answer text held, cache, [.requested text]⟩) ∧
      cache.Warm texts := by
  obtain ⟨first, rest⟩ := List.forall_mem_cons.1 warm
  obtain ⟨held, found⟩ := Option.isSome_iff_exists.1 first
  exact ⟨⟨held, get_of_found found⟩, rest⟩

/-- Requests change nothing in a warm cache. -/
theorem askAll_of_warm (warm : cache.Warm texts) : cache.askAll texts = cache := by
  induction texts with
  | nil => rfl
  | cons text texts ih =>
    obtain ⟨⟨held, answered⟩, rest⟩ := warm_cons warm
    rw [askAll_cons, answered]
    exact ih rest

/-- Requests to a warm cache tell nothing but that they were made. -/
theorem tellAll_of_warm (warm : cache.Warm texts) : cache.tellAll texts = texts.map .requested := by
  induction texts with
  | nil => rfl
  | cons text texts ih =>
    obtain ⟨⟨held, answered⟩, rest⟩ := warm_cons warm
    rw [tellAll, answered, List.map_cons]
    exact congrArg (Event.requested text :: ·) (ih rest)

end PatternCache

namespace Leaf

variable [Engine]

/-- Comparing tells of nothing but patterns. -/
theorem subject?_of_mem_compare {l : Leaf} {actual : Value} {cache : PatternCache} {e : Event}
    (member : e ∈ (l.compare actual cache).events) : e.subject?.isSome = true := by
  unfold compare at member
  cases test : l.operator with
  | substring =>
    rw [test] at member
    cases found : actual.asText? <;> cases expected : l.value.asText? <;>
      simp [found, expected] at member
  | regex =>
    rw [test] at member
    cases found : actual.asText? <;> cases expected : l.value.asText? <;>
      simp only [found, expected, Outcome.map_events, List.not_mem_nil] at member
    rw [PatternCache.subject?_of_mem_get member]
    rfl
  | _ => simp [test] at member

/-- What happens while a leaf is evaluated is about patterns or has at most a line for debugging. -/
theorem quiet_of_mem_evaluate {look : String → Option Value} {l : Leaf} {cache : PatternCache}
    {e : Event} (member : e ∈ (l.evaluate look cache).events) :
    e.subject?.isSome = true ∨ ∀ r, e.record? = some r → r.level = .debug := by
  have lookup : ∀ r, (Event.lookedUp l.name).record? = some r → r.level = .debug := nofun
  unfold evaluate at member
  by_cases test : l.operator = .present
  · simp only [test, if_true, List.mem_singleton] at member
    subst member
    exact .inr lookup
  · simp only [test, if_false] at member
    cases found : known look l.name with
    | none =>
      simp only [found, List.mem_cons, List.not_mem_nil, or_false] at member
      rcases member with rfl | rfl
      · exact .inr lookup
      · refine .inr fun r line => ?_
        cases line
        rfl
    | some actual =>
      simp only [found] at member
      split at member
      · rcases List.mem_cons.1 member with rfl | compared
        · exact .inr lookup
        · exact .inl (subject?_of_mem_compare compared)
      · rcases List.mem_append.1 member with front | last
        · rcases List.mem_cons.1 front with rfl | compared
          · exact .inr lookup
          · exact .inl (subject?_of_mem_compare compared)
        · rw [List.mem_singleton] at last
          subst last
          refine .inr fun r line => ?_
          cases line
          rfl

/-- Validating a leaf tells of nothing but patterns. -/
theorem subject?_of_mem_validate {l : Leaf} {cache : PatternCache} {e : Event}
    (member : e ∈ (l.validate cache).events) : e.subject?.isSome = true := by
  unfold validate at member
  split at member
  · cases member
  · split at member
    · cases member
    · rw [PatternCache.subject?_of_mem_get member]
      rfl

/-- A leaf that is decided by a pattern and passes validation is asked for that pattern there. -/
theorem checks?_of_asks? {look : String → Option Value} {l : Leaf} {pattern : String}
    (passes : l.check = .ok ()) (asks : l.asks? look = some pattern) :
    l.checks? = some pattern := by
  obtain ⟨⟨named, -⟩, -⟩ := (check_eq_ok_iff l).1 passes
  obtain ⟨actual, -, wants⟩ := Option.bind_eq_some_iff.1 asks
  rw [wants?_eq] at wants
  obtain ⟨text, -, looks⟩ := Option.bind_eq_some_iff.1 wants
  rw [checks?, named]
  exact looks

end Leaf

namespace Condition

variable [Engine]

variable {look : String → Option Value} {c : Condition} {cache : PatternCache}

/-- Whatever evaluation asks for, on any source, validation asked for, if the condition passed. -/
theorem mem_checks_of_mem_asks (passes : ∀ l ∈ c.leaves, l.check = .ok ()) {pattern : String}
    (asked : pattern ∈ c.asks look) : pattern ∈ c.checks := by
  obtain ⟨l, reached, asks⟩ := List.mem_filterMap.1 asked
  have leaf : l ∈ c.leaves := c.mem_leaves_of_mem_reached reached
  rw [checks, Leaf.upToFailing_of_pass passes]
  exact List.mem_filterMap.2 ⟨l, leaf, Leaf.checks?_of_asks? (passes l leaf) asks⟩

/-- On a warm cache evaluation changes nothing and writes only lines for debugging. -/
theorem evaluate_of_warm (sound : cache.Sound) (warm : cache.Warm (c.asks look)) :
    (c.evaluate look cache).cache = cache ∧
      ∀ r ∈ log (c.evaluate look cache).events, r.level = .debug := by
  have accounts := evaluate_accounts look c cache
  have asked := requests_evaluate sound look c
  constructor
  · rw [accounts.kept, asked, PatternCache.askAll_of_warm warm]
  · intro r line
    obtain ⟨e, happened, written⟩ := List.mem_filterMap.1 line
    obtain ⟨l, -, k, evaluated⟩ : ∃ l ∈ c.reached (Leaf.verdict look), ∃ k,
        e ∈ (Leaf.evaluate look l k).events := by
      apply Outcome.exists_of_mem_inTurn
      rw [← (evaluate_runs look sound c).told]
      exact happened
    rcases Leaf.quiet_of_mem_evaluate evaluated with subject | quiet
    · -- What is told of patterns is that they were asked for, which has no line.
      have told : e ∈ aboutPatterns (c.evaluate look cache).events :=
        List.mem_filter.2 ⟨happened, subject⟩
      rw [accounts.told, asked, PatternCache.tellAll_of_warm warm] at told
      obtain ⟨pattern, -, rfl⟩ := List.mem_map.1 told
      cases written
    · exact quiet r written

/-- On a warm cache validation changes nothing and tells only what it asks for. -/
theorem validate_of_warm (sound : cache.Sound) (warm : cache.Warm c.checks) :
    c.validate cache = ⟨c.check, cache, c.checks.map .requested⟩ := by
  have accounts := validate_accounts c cache
  have asked := requests_validate sound c
  have all : aboutPatterns (c.validate cache).events = (c.validate cache).events := by
    refine List.filter_eq_self.2 fun e happened => ?_
    rw [(validate_runs sound c).told] at happened
    obtain ⟨l, -, k, validated⟩ := Outcome.exists_of_mem_inTurn _ happened
    exact Leaf.subject?_of_mem_validate validated
  have events : (c.validate cache).events = c.checks.map .requested := by
    rw [← all, accounts.told, asked, PatternCache.tellAll_of_warm warm]
  have kept : (c.validate cache).cache = cache := by
    rw [accounts.kept, asked, PatternCache.askAll_of_warm warm]
  calc
    c.validate cache = ⟨(c.validate cache).result, (c.validate cache).cache,
      (c.validate cache).events⟩ := rfl
    _ = _ := by rw [result_validate sound, kept, events]

end Condition

namespace Session

section AnyEngine

variable [Engine]

variable {s : Session} {ops : List Operation} {texts : List String}

/-- A session stays warm until the caches are cleared. -/
theorem warm_after (warm : s.caches.patterns.Warm texts) (quiet : .clear ∉ ops) :
    (s.after ops).caches.patterns.Warm texts := by
  intro text asked
  obtain ⟨held, found⟩ := Option.isSome_iff_exists.1 (warm text asked)
  exact Option.isSome_iff_exists.2 ⟨held, find?_after_of_found found quiet⟩

/-- Validation leaves a cache that is warm for what it asked for. -/
theorem warm_validate (sound : s.caches.patterns.Sound) (c : Condition) :
    (s.step (.validate c)).2.1.caches.patterns.Warm c.checks := by
  intro text asked
  rw [isSome_find?_step sound]
  exact ⟨nofun, .inl asked⟩

/-- **Validation warms the pattern cache completely.** If a condition passed validation at some
moment of a session, and the caches were not cleared since, then evaluating it leaves the pattern
cache as it is, for every source, and writes no line but for debugging; and validating it again
passes, leaves the pattern cache as it is and writes no line at all. -/
theorem warm_after_validation (before later : List Operation) (c : Condition)
    (valid : (c.validate (start.after before).caches.patterns).result = .ok ())
    (quiet : .clear ∉ later) :
    let cache := (start.after (before ++ .validate c :: later)).caches.patterns
    (∀ look : String → Option Value, (c.evaluate look cache).cache = cache ∧
      ∀ r ∈ log (c.evaluate look cache).events, r.level = .debug) ∧
    (c.validate cache).result = .ok () ∧ (c.validate cache).cache = cache ∧
      log (c.validate cache).events = [] := by
  intro cache
  have sound : cache.Sound := sound_after _
  have passes : c.check = .ok () := by
    rw [← Condition.result_validate (sound_after before), valid]
  have warm : cache.Warm c.checks := by
    show (start.after (before ++ .validate c :: later)).caches.patterns.Warm c.checks
    rw [after_append, after_cons]
    exact warm_after (warm_validate (sound_after before) c) quiet
  constructor
  · intro look
    apply Condition.evaluate_of_warm sound
    intro pattern asked
    have leaves := (Condition.check_eq_ok_iff c).1 passes
    exact warm pattern (Condition.mem_checks_of_mem_asks leaves asked)
  · rw [Condition.validate_of_warm sound warm]
    refine ⟨passes, rfl, List.filterMap_eq_nil_iff.2 fun e told => ?_⟩
    obtain ⟨pattern, -, rfl⟩ := List.mem_map.1 told
    rfl

end AnyEngine

/-- A rule with two patterns was valid before a session went on with a text that is no pattern and
with an evaluation that reached the first pattern only; the second one is not compiled for a user who
is decided by it. -/
theorem both_patterns_stay_warm :
    let rule : Condition := .and [.test "plan" .regex (.text "a"),
      .not (.or [.present "banned", .test "build" .regex (.text "b")])]
    let before : List Operation := [.compile "b", .clear]
    let later : List Operation := [.compile "(", .set "plan" (.text "pro"), .evaluate rule,
      .forget rule]
    let cache := (start.after (before ++ .validate rule :: later)).caches.patterns
    let user : Attributes := Table.empty.insert "plan" (.text "gala") |>.insert "build" (.text "b7")
    ((rule.validate (start.after before).caches.patterns).result = .ok () ∧ .clear ∉ later) ∧
      ((rule.evaluate user.find? cache).cache = cache ∧
        ∀ r ∈ log (rule.evaluate user.find? cache).events, r.level = .debug) ∧
      (rule.validate cache).result = .ok () ∧ (rule.validate cache).cache = cache ∧
        log (rule.validate cache).events = [] := by
  intro rule before later cache user
  have valid : (rule.validate (start.after before).caches.patterns).result = .ok () := by
    decide
  have quiet : .clear ∉ later := by
    simp [later]
  obtain ⟨evaluated, validated⟩ := warm_after_validation before later rule valid quiet
  exact ⟨⟨valid, quiet⟩, evaluated user.find?, validated⟩

end Session

end Targeting

import Targeting.Session

/-!
# The pattern cache follows the requests

Evaluation and validation touch the pattern cache only through requests, and every request is an
event. So the cache an operation leaves is the one it found after the requests among its events, and
what it tells of patterns is what these requests tell (`Outcome.Accounts`), whatever was evaluated or
validated. What a single request keeps, every operation keeps.
-/

set_option autoImplicit false

namespace Targeting

/-- The pattern that an event is about, if it is about one. -/
def Event.subject? : Event → Option String
  | requested pattern => some pattern
  | compiled pattern => some pattern
  | rejected pattern _ => some pattern
  | _ => none

/-- What happened to patterns, in order. -/
def aboutPatterns (events : List Event) : List Event :=
  events.filter fun e => e.subject?.isSome

@[simp] theorem aboutPatterns_append (events later : List Event) :
    aboutPatterns (events ++ later) = aboutPatterns events ++ aboutPatterns later :=
  List.filter_append events later

/-- Where nothing happens to patterns, none is asked for. -/
theorem requests_eq_nil {events : List Event} (quiet : aboutPatterns events = []) :
    requests events = [] := by
  refine List.filterMap_eq_nil_iff.2 fun e member => ?_
  have silent := List.filter_eq_nil_iff.1 quiet e member
  cases e with
  | requested pattern => exact absurd rfl silent
  | _ => rfl

variable [Engine]

namespace PatternCache

/-- The cache after several texts were asked for, one after the other. -/
def askAll (cache : PatternCache) (texts : List String) : PatternCache :=
  texts.foldl (fun k text => (k.get text).cache) cache

/-- What happens when several texts are asked for, one after the other. -/
def tellAll (cache : PatternCache) : List String → List Event
  | [] => []
  | text :: texts => (cache.get text).events ++ (cache.get text).cache.tellAll texts

@[simp] theorem askAll_nil (cache : PatternCache) : cache.askAll [] = cache := rfl

@[simp] theorem askAll_cons (cache : PatternCache) (text : String) (texts : List String) :
    cache.askAll (text :: texts) = (cache.get text).cache.askAll texts := rfl

theorem askAll_append (cache : PatternCache) (texts later : List String) :
    cache.askAll (texts ++ later) = (cache.askAll texts).askAll later :=
  List.foldl_append

/-- What every request keeps, several requests keep. -/
theorem askAll_induction {P : PatternCache → Prop}
    (kept : ∀ cache text, P cache → P (cache.get text).cache) {cache : PatternCache}
    (holds : P cache) (texts : List String) : P (cache.askAll texts) := by
  induction texts generalizing cache with
  | nil => exact holds
  | cons text texts ih => exact ih (kept cache text holds)

theorem tellAll_append (cache : PatternCache) (texts later : List String) :
    cache.tellAll (texts ++ later) = cache.tellAll texts ++ (cache.askAll texts).tellAll later := by
  induction texts generalizing cache with
  | nil => rfl
  | cons text texts ih =>
    simp only [List.cons_append, tellAll, ih, askAll_cons, List.append_assoc]

/-- What the cache keeps for a text that it does not hold yet. -/
def fresh (cache : PatternCache) (text : String) : Except Pattern.Refusal Regex :=
  (Engine.compile text).map fun pattern => ⟨cache.next, text, pattern⟩

/-- What the cache answers for a text from: what it holds, else what it keeps from now on. -/
def holding (cache : PatternCache) (text : String) : Except Pattern.Refusal Regex :=
  (cache.table.find? text).getD (cache.fresh text)

/-- What happens when a text is asked for the first time. -/
def compiling (text : String) : List Event :=
  .requested text :: .compiled text ::
    match Engine.compile text with
    | .ok _ => []
    | .error refusal => [.rejected text refusal]

variable {cache : PatternCache} {text : String}

theorem get_of_found {held : Except Pattern.Refusal Regex}
    (found : cache.table.find? text = some held) :
    cache.get text = ⟨answer text held, cache, [.requested text]⟩ := by
  simp only [get, found]

theorem get_of_absent (absent : cache.table.find? text = none) :
    cache.get text = ⟨answer text (cache.fresh text),
      ⟨cache.table.insert text (cache.fresh text), (cache.get text).cache.next⟩,
      compiling text⟩ := by
  unfold fresh compiling
  cases compiled : Engine.compile text <;> simp only [get, absent, compiled, Except.map, answer]

/-- A request is told once, whether it is answered from the cache or not. -/
theorem requests_get (cache : PatternCache) (text : String) :
    requests (cache.get text).events = [text] := by
  cases held : cache.table.find? text with
  | some _ => rw [get_of_found held]; rfl
  | none =>
    rw [get_of_absent held]
    unfold compiling
    cases Engine.compile text <;> rfl

/-- A request is about the text that is asked for. -/
theorem subject?_of_mem_get {e : Event} (member : e ∈ (cache.get text).events) :
    e.subject? = some text := by
  cases held : cache.table.find? text with
  | some known =>
    rw [get_of_found held, List.mem_singleton] at member
    rw [member]
    rfl
  | none =>
    rw [get_of_absent held] at member
    have each : ∀ e ∈ compiling text, e.subject? = some text := by
      unfold compiling
      cases Engine.compile text <;> simp [Event.subject?]
    exact each e member

/-- A request tells of nothing but patterns. -/
theorem aboutPatterns_get (cache : PatternCache) (text : String) :
    aboutPatterns (cache.get text).events = (cache.get text).events := by
  refine List.filter_eq_self.2 fun e member => ?_
  rw [subject?_of_mem_get member]
  rfl

/-- A request is answered from what the cache holds afterwards. -/
theorem result_get (cache : PatternCache) (text : String) :
    (cache.get text).result = answer text (cache.holding text) := by
  unfold holding
  cases held : cache.table.find? text with
  | some _ => rw [get_of_found held, Option.getD_some]
  | none => rw [get_of_absent held, Option.getD_none]

/-- **A request binds its text and leaves every other text alone.** -/
theorem find?_get (cache : PatternCache) (text other : String) :
    (cache.get text).cache.table.find? other =
      if other = text then some (cache.holding text) else cache.table.find? other := by
  unfold holding
  cases held : cache.table.find? text with
  | some known =>
    rw [get_of_found held, Option.getD_some]
    split
    · rename_i same
      rw [same, held]
    · rfl
  | none => rw [get_of_absent held, Table.find?_insert, Option.getD_none]

/-- Serial numbers go on. -/
theorem next_le_get (cache : PatternCache) (text : String) :
    cache.next ≤ (cache.get text).cache.next := by
  unfold get
  split
  · exact Nat.le_refl _
  · split
    · exact Nat.le_succ _
    · exact Nat.le_refl _

end PatternCache

namespace Outcome

variable {α β : Type} {cache : PatternCache}

/-- All that an outcome does with patterns are the requests among its events. -/
structure Accounts (cache : PatternCache) (o : Outcome α) : Prop where
  /-- The cache is the one it started from after these requests. -/
  kept : o.cache = cache.askAll (requests o.events)
  /-- What is told of patterns is what these requests tell. -/
  told : aboutPatterns o.events = cache.tellAll (requests o.events)

/-- An outcome in which nothing happens to patterns leaves the cache alone. -/
theorem accounts_of_quiet (value : α) {events : List Event} (quiet : aboutPatterns events = []) :
    Accounts cache ⟨value, cache, events⟩ where
  kept := by rw [requests_eq_nil quiet, PatternCache.askAll_nil]
  told := by rw [requests_eq_nil quiet, quiet, PatternCache.tellAll]

theorem accounts_get (cache : PatternCache) (text : String) :
    (cache.get text).Accounts cache where
  kept := by rw [PatternCache.requests_get, PatternCache.askAll_cons, PatternCache.askAll_nil]
  told := by
    rw [PatternCache.requests_get, PatternCache.aboutPatterns_get, PatternCache.tellAll,
      PatternCache.tellAll, List.append_nil]

theorem Accounts.map {o : Outcome α} (h : o.Accounts cache) (f : α → β) :
    (o.map f).Accounts cache :=
  ⟨h.kept, h.told⟩

/-- Two outcomes one after the other account together. -/
theorem Accounts.after {first : Outcome α} {second : Outcome β} (h : first.Accounts cache)
    (h' : second.Accounts first.cache) : (second.after first.events).Accounts cache where
  kept := by
    rw [after_cache, after_events, requests_append, PatternCache.askAll_append, ← h.kept, ← h'.kept]
  told := by
    rw [after_events, aboutPatterns_append, requests_append, PatternCache.tellAll_append, ← h.kept,
      ← h.told, ← h'.told]

/-- What every request keeps, an outcome keeps that accounts for its cache. -/
theorem Accounts.keeps {P : PatternCache → Prop} {o : Outcome α}
    (kept : ∀ cache text, P cache → P (cache.get text).cache) (h : o.Accounts cache)
    (holds : P cache) : P o.cache := by
  rw [h.kept]
  exact PatternCache.askAll_induction kept holds _

/-- An outcome accounts alike with more around it that is not about patterns. -/
theorem Accounts.of_quiet {o : Outcome α} (h : o.Accounts cache) (value : β)
    (before later : List Event) (quiet : aboutPatterns before = [])
    (quietLater : aboutPatterns later = []) :
    Accounts cache ⟨value, o.cache, before ++ o.events ++ later⟩ := by
  have same : requests (before ++ o.events ++ later) = requests o.events := by
    rw [requests_append, requests_append, requests_eq_nil quiet, requests_eq_nil quietLater,
      List.nil_append, List.append_nil]
  constructor
  · rw [same]
    exact h.kept
  · rw [same, aboutPatterns_append, aboutPatterns_append, quiet, quietLater, List.nil_append,
      List.append_nil]
    exact h.told

end Outcome

open Outcome

namespace Leaf

theorem compare_accounts (l : Leaf) (actual : Value) (cache : PatternCache) :
    (l.compare actual cache).Accounts cache := by
  unfold compare
  cases l.operator with
  | substring =>
    cases actual.asText? <;> cases l.value.asText? <;> exact accounts_of_quiet _ rfl
  | regex =>
    cases actual.asText? with
    | none => exact accounts_of_quiet _ rfl
    | some a =>
      cases l.value.asText? with
      | none => exact accounts_of_quiet _ rfl
      | some e => exact (accounts_get cache e).map _
  | _ => exact accounts_of_quiet _ rfl

theorem evaluate_accounts (look : String → Option Value) (l : Leaf) (cache : PatternCache) :
    (l.evaluate look cache).Accounts cache := by
  unfold evaluate
  by_cases test : l.operator = .present
  · simp only [test, if_true]
    exact accounts_of_quiet _ rfl
  · simp only [test, if_false]
    cases known look l.name with
    | none => exact accounts_of_quiet _ rfl
    | some actual =>
      have compared : (l.compare actual cache).Accounts cache := l.compare_accounts actual cache
      dsimp only
      split
      · rename_i b _
        have framed := compared.of_quiet (Verdict.ofBool b) [.lookedUp l.name] [] rfl rfl
        rw [List.append_nil] at framed
        exact framed
      · exact compared.of_quiet Verdict.unknown [.lookedUp l.name] [.incomparable l actual] rfl rfl

theorem validate_accounts (l : Leaf) (cache : PatternCache) :
    (l.validate cache).Accounts cache := by
  unfold validate
  cases l.flaw? with
  | some flaw => exact accounts_of_quiet _ rfl
  | none =>
    cases l.pattern? with
    | none => exact accounts_of_quiet _ rfl
    | some pattern => exact (accounts_get cache pattern).map _

end Leaf

namespace Condition

variable (look : String → Option Value)

mutual

theorem evaluate_accounts : (c : Condition) → (cache : PatternCache) →
    (c.evaluate look cache).Accounts cache
  | and parts, cache => evaluateAll_accounts false parts cache
  | or parts, cache => evaluateAny_accounts false parts cache
  | not part, cache => (evaluate_accounts part cache).map _
  | leaf l, cache => l.evaluate_accounts look cache

theorem evaluateAll_accounts : (unsure : Bool) → (parts : List Condition) →
    (cache : PatternCache) → (evaluateAll look unsure parts cache).Accounts cache
  | _, [], _ => accounts_of_quiet _ rfl
  | unsure, part :: parts, cache => by
    have first := evaluate_accounts part cache
    unfold evaluateAll
    dsimp only
    split
    · exact first
    · exact first.after (evaluateAll_accounts true parts _)
    · exact first.after (evaluateAll_accounts unsure parts _)

theorem evaluateAny_accounts : (unsure : Bool) → (parts : List Condition) →
    (cache : PatternCache) → (evaluateAny look unsure parts cache).Accounts cache
  | _, [], _ => accounts_of_quiet _ rfl
  | unsure, part :: parts, cache => by
    have first := evaluate_accounts part cache
    unfold evaluateAny
    dsimp only
    split
    · exact first
    · exact first.after (evaluateAny_accounts true parts _)
    · exact first.after (evaluateAny_accounts unsure parts _)

end

mutual

theorem validate_accounts : (c : Condition) → (cache : PatternCache) →
    (c.validate cache).Accounts cache
  | and parts, cache => validateAll_accounts parts cache
  | or parts, cache => validateAll_accounts parts cache
  | not part, cache => validate_accounts part cache
  | leaf l, cache => l.validate_accounts cache

theorem validateAll_accounts : (parts : List Condition) → (cache : PatternCache) →
    (validateAll parts cache).Accounts cache
  | [], _ => accounts_of_quiet _ rfl
  | part :: parts, cache => by
    have first := validate_accounts part cache
    unfold validateAll
    dsimp only
    split
    · exact first
    · exact first.after (validateAll_accounts parts _)

end

end Condition

end Targeting

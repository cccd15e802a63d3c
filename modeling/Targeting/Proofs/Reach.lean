import Targeting.Proofs.Kleene
import Targeting.Proofs.Validity

/-!
# Which leaves a condition reaches

Evaluation goes through the leaves of a condition from left to right and leaves out what comes after
a part that settles its composite; validation goes through them up to the first that fails. Both do
nothing else: what happens, and what becomes of the pattern cache, is what the leaves do one after the
other (`Condition.evaluate_runs`, `Condition.validate_runs`). So the names a run looks up and the
patterns it asks for are read off the leaves that are reached (`Condition.lookups_evaluate`,
`Condition.requests_evaluate`, `Condition.requests_validate`).
-/

set_option autoImplicit false

namespace Targeting

/-- The items up to and including the first with a property; all of them if there is none. -/
def upToFirst {α : Type} (stops : α → Bool) (xs : List α) : List α :=
  xs.take (xs.findIdx stops + 1)

section UpToFirst

variable {α : Type} {stops : α → Bool} {xs : List α}

theorem upToFirst_nil : upToFirst stops [] = [] := rfl

theorem upToFirst_cons (x : α) (xs : List α) :
    upToFirst stops (x :: xs) = x :: if stops x then [] else upToFirst stops xs := by
  rw [upToFirst, List.findIdx_cons]
  cases stops x <;> rfl

/-- Items without the property are gone through, and those that follow as well. -/
theorem upToFirst_append_of_open (open_ : ∀ x ∈ xs, stops x = false) (ys : List α) :
    upToFirst stops (xs ++ ys) = xs ++ upToFirst stops ys := by
  induction xs with
  | nil => rfl
  | cons x xs ih =>
    obtain ⟨first, rest⟩ := List.forall_mem_cons.1 open_
    rw [List.cons_append, upToFirst_cons, first, ih rest]
    rfl

theorem upToFirst_of_open (open_ : ∀ x ∈ xs, stops x = false) : upToFirst stops xs = xs := by
  have whole := upToFirst_append_of_open open_ []
  rw [List.append_nil, upToFirst_nil, List.append_nil] at whole
  exact whole

/-- Nothing behind an item with the property matters. -/
theorem upToFirst_append_of_stop {x : α} (member : x ∈ xs) (stop : stops x = true) (ys : List α) :
    upToFirst stops (xs ++ ys) = upToFirst stops xs := by
  induction xs with
  | nil => cases member
  | cons y xs ih =>
    rw [List.cons_append, upToFirst_cons, upToFirst_cons]
    rcases List.mem_cons.1 member with rfl | later
    · rw [stop]
      rfl
    · rw [ih later]

end UpToFirst

namespace Condition

variable (value : Leaf → Verdict)

mutual

/-- The leaves that are reached from left to right, if parts are left out that come after a part with
the verdict that settles their composite: `no` for and, `yes` for or. -/
def reached : Condition → List Leaf
  | and parts => reachedUpTo .no parts
  | or parts => reachedUpTo .yes parts
  | not part => reached part
  | leaf l => [l]

/-- The leaves that are reached in several parts, up to and including the first with the settling
verdict. -/
def reachedUpTo (settling : Verdict) : List Condition → List Leaf
  | [] => []
  | part :: parts =>
    reached part ++ if part.kleene value = settling then [] else reachedUpTo settling parts

end

variable {value} {settling : Verdict} {part : Condition} (parts : List Condition)

theorem reachedUpTo_of_settled (settled : part.kleene value = settling) :
    reachedUpTo value settling (part :: parts) = part.reached value := by
  rw [reachedUpTo, if_pos settled, List.append_nil]

theorem reachedUpTo_of_open (unsettled : part.kleene value ≠ settling) :
    reachedUpTo value settling (part :: parts) =
      part.reached value ++ reachedUpTo value settling parts := by
  rw [reachedUpTo, if_neg unsettled]

/-- The parts that are reached are those up to the first with the settling verdict. -/
theorem reachedUpTo_eq :
    reachedUpTo value settling parts =
      (upToFirst (·.kleene value == settling) parts).flatMap (reached value) := by
  induction parts with
  | nil => rw [reachedUpTo, upToFirst_nil, List.flatMap_nil]
  | cons part parts ih =>
    rw [upToFirst_cons, List.flatMap_cons]
    by_cases settled : part.kleene value = settling
    · rw [reachedUpTo_of_settled parts settled]
      simp [settled]
    · rw [reachedUpTo_of_open parts settled, ih]
      simp [settled]

mutual

/-- The leaves that are reached are among those of the condition, in the same order. -/
theorem reached_sublist : (c : Condition) → (c.reached value).Sublist c.leaves
  | and parts => by
    rw [reached, leaves]
    exact reachedUpTo_sublist parts
  | or parts => by
    rw [reached, leaves]
    exact reachedUpTo_sublist parts
  | not part => by
    rw [reached, leaves]
    exact reached_sublist part
  | leaf l => by
    rw [reached, leaves]

theorem reachedUpTo_sublist {settling : Verdict} : (parts : List Condition) →
    (reachedUpTo value settling parts).Sublist (leavesList parts)
  | [] => by
    rw [reachedUpTo, leavesList]
  | part :: parts => by
    rw [reachedUpTo, leavesList]
    refine (reached_sublist part).append ?_
    split
    · exact List.nil_sublist _
    · exact reachedUpTo_sublist parts

end

/-- Only leaves of the condition are reached. -/
theorem mem_leaves_of_mem_reached {l : Leaf} (c : Condition) (among : l ∈ c.reached value) :
    l ∈ c.leaves :=
  (reached_sublist c).subset among

end Condition

namespace Leaf

/-- The pattern that a leaf asks for to test an attribute: the leaf looks for a pattern, which is a
text, and the attribute is a text too. -/
def wants? (l : Leaf) (actual : Value) : Option String :=
  match l.operator, actual, l.value with
  | .regex, .text _, .text pattern => some pattern
  | _, _, _ => none

/-- The pattern that a leaf asks for when it is evaluated. -/
def asks? (look : String → Option Value) (l : Leaf) : Option String :=
  (look l.name).bind l.wants?

/-- The pattern that a leaf asks for when it is validated: that of a leaf with a name. -/
def checks? (l : Leaf) : Option String :=
  if Text.isBlank l.name then none else l.pattern?

/-- The pattern that a leaf asks for is the one it looks for, if the attribute is a text. -/
theorem wants?_eq (l : Leaf) (actual : Value) :
    l.wants? actual = actual.asText?.bind fun _ => l.pattern? := by
  unfold wants? pattern?
  cases l.operator with
  | regex => cases actual <;> cases l.value <;> rfl
  | _ => cases actual <;> rfl

/-- No leaf asks for a pattern to test null, which is the same as nothing. -/
theorem asks?_eq_bind_known (look : String → Option Value) (l : Leaf) :
    l.asks? look = (known look l.name).bind l.wants? := by
  have null : l.wants? .null = none := by
    unfold wants?
    cases l.operator <;> rfl
  unfold asks? known
  cases look l.name with
  | none => rfl
  | some v =>
    cases v with
    | null => exact null
    | _ => rfl

/-- A leaf that looks for a pattern has no flaw but a blank name. -/
theorem checks?_eq (l : Leaf) :
    l.checks? = match l.flaw? with
      | some _ => none
      | none => l.pattern? := by
  unfold checks?
  cases flawed : l.flaw? with
  | none =>
    have named := ((flaw?_eq_none_iff l).1 flawed).1
    rw [if_neg (by simp [named])]
  | some flaw =>
    split
    · rfl
    · rename_i named
      have taken : l.operator.takes l.value = false := by
        by_contra taken
        have sound := (flaw?_eq_none_iff l).2 ⟨by simpa using named, by simpa using taken⟩
        rw [sound] at flawed
        cases flawed
      unfold pattern?
      cases test : l.operator with
      | regex =>
        rw [test] at taken
        simpa [Operator.takes] using taken
      | _ => rfl

end Leaf

variable [Engine]

namespace Outcome

variable {α β γ δ : Type}

/-- A step for each of several items, each on the cache that the one before it left. -/
def inTurn (step : β → PatternCache → Outcome α) : List β → PatternCache → Outcome Unit
  | [], cache => ⟨(), cache, []⟩
  | x :: xs, cache =>
    let first := step x cache
    (inTurn step xs first.cache).after first.events

variable (step : β → PatternCache → Outcome α) {cache : PatternCache}

theorem inTurn_append (xs ys : List β) (cache : PatternCache) :
    inTurn step (xs ++ ys) cache =
      (inTurn step ys (inTurn step xs cache).cache).after (inTurn step xs cache).events := by
  induction xs generalizing cache with
  | nil => rfl
  | cons x xs ih =>
    simp only [List.cons_append, inTurn, ih, after, List.append_assoc]

/-- What can be seen of steps in turn is what can be seen of each, if that does not depend on the
cache. -/
theorem filterMap_inTurn {view : Event → Option γ} {seen : β → List γ}
    (each : ∀ x cache, (step x cache).events.filterMap view = seen x) (xs : List β)
    (cache : PatternCache) : (inTurn step xs cache).events.filterMap view = xs.flatMap seen := by
  induction xs generalizing cache with
  | nil => rfl
  | cons x xs ih =>
    simp only [inTurn, after_events, List.filterMap_append, each, ih, List.flatMap_cons]

/-- What happens in steps in turn happens in one of them. -/
theorem exists_of_mem_inTurn {e : Event} {xs : List β}
    (member : e ∈ (inTurn step xs cache).events) : ∃ x ∈ xs, ∃ k, e ∈ (step x k).events := by
  induction xs generalizing cache with
  | nil => cases member
  | cons x xs ih =>
    rcases List.mem_append.1 member with first | later
    · exact ⟨x, List.mem_cons_self, cache, first⟩
    · obtain ⟨y, among, k, happens⟩ := ih later
      exact ⟨y, List.mem_cons_of_mem x among, k, happens⟩

/-- What each of several steps in turn does, on some cache with what every step keeps, happens. -/
theorem exists_step_of_mem {P : PatternCache → Prop} (kept : ∀ x k, P k → P (step x k).cache)
    (holds : P cache) {x : β} {xs : List β} (among : x ∈ xs) :
    ∃ k, P k ∧ ∀ e ∈ (step x k).events, e ∈ (inTurn step xs cache).events := by
  induction xs generalizing cache with
  | nil => cases among
  | cons y ys ih =>
    rcases List.mem_cons.1 among with rfl | later
    · exact ⟨cache, holds, fun e happens => List.mem_append_left _ happens⟩
    · obtain ⟨k, still, happens⟩ := ih (kept y cache holds) later
      exact ⟨k, still, fun e happened => List.mem_append_right _ (happens e happened)⟩

/-- Apart from its value, an outcome is that of steps for several items in turn. -/
structure Runs (xs : List β) (cache : PatternCache) (o : Outcome δ) : Prop where
  kept : o.cache = (inTurn step xs cache).cache
  told : o.events = (inTurn step xs cache).events

theorem runs_nil (value : δ) : Runs step [] cache ⟨value, cache, []⟩ :=
  ⟨rfl, rfl⟩

theorem runs_step (x : β) : (step x cache).Runs step [x] cache where
  kept := rfl
  told := (List.append_nil _).symm

variable {step} {xs ys : List β}

theorem Runs.map {o : Outcome γ} (h : o.Runs step xs cache) (f : γ → δ) :
    (o.map f).Runs step xs cache :=
  ⟨h.kept, h.told⟩

/-- Two outcomes one after the other are those of all their items in turn. -/
theorem Runs.after {first : Outcome γ} {second : Outcome δ} (h : first.Runs step xs cache)
    (h' : second.Runs step ys first.cache) :
    (second.after first.events).Runs step (xs ++ ys) cache := by
  rw [h.kept] at h'
  constructor
  · rw [inTurn_append]
    exact h'.kept
  · rw [inTurn_append, after_events, after_events, h.told, h'.told]

end Outcome

open Outcome

namespace Condition

section Evaluation

variable (look : String → Option Value)

-- Each loop goes on exactly as long as no part has the settling value, which is what `reachedUpTo`
-- asks.
mutual

/-- **Evaluation is the evaluation of the leaves that are reached.** -/
theorem evaluate_runs {cache : PatternCache} (sound : cache.Sound) : (c : Condition) →
    (c.evaluate look cache).Runs (Leaf.evaluate look) (c.reached (Leaf.verdict look)) cache
  | and parts => by
    simpa only [evaluate, reached] using evaluateAll_runs sound false parts
  | or parts => by
    simpa only [evaluate, reached] using evaluateAny_runs sound false parts
  | not part => by
    simpa only [evaluate, reached] using (evaluate_runs sound part).map Verdict.not
  | leaf l => by
    simpa only [evaluate, reached] using runs_step (Leaf.evaluate look) l

theorem evaluateAll_runs {cache : PatternCache} (sound : cache.Sound) (unsure : Bool) :
    (parts : List Condition) → (evaluateAll look unsure parts cache).Runs (Leaf.evaluate look)
      (reachedUpTo (Leaf.verdict look) .no parts) cache
  | [] => by
    rw [evaluateAll, reachedUpTo]
    exact runs_nil _ _
  | part :: parts => by
    have first := evaluate_runs sound part
    have value := result_eq_kleene look sound part
    have kept := (evaluate_accounts look part cache).sound sound
    simp only [evaluateAll]
    cases settled : (evaluate look part cache).result with
    | no =>
      rw [reachedUpTo_of_settled parts (by rw [← value, settled])]
      exact first
    | unknown =>
      rw [reachedUpTo_of_open parts (by simp [← value, settled])]
      exact first.after (evaluateAll_runs kept true parts)
    | yes =>
      rw [reachedUpTo_of_open parts (by simp [← value, settled])]
      exact first.after (evaluateAll_runs kept unsure parts)

theorem evaluateAny_runs {cache : PatternCache} (sound : cache.Sound) (unsure : Bool) :
    (parts : List Condition) → (evaluateAny look unsure parts cache).Runs (Leaf.evaluate look)
      (reachedUpTo (Leaf.verdict look) .yes parts) cache
  | [] => by
    rw [evaluateAny, reachedUpTo]
    exact runs_nil _ _
  | part :: parts => by
    have first := evaluate_runs sound part
    have value := result_eq_kleene look sound part
    have kept := (evaluate_accounts look part cache).sound sound
    simp only [evaluateAny]
    cases settled : (evaluate look part cache).result with
    | yes =>
      rw [reachedUpTo_of_settled parts (by rw [← value, settled])]
      exact first
    | unknown =>
      rw [reachedUpTo_of_open parts (by simp [← value, settled])]
      exact first.after (evaluateAny_runs kept true parts)
    | no =>
      rw [reachedUpTo_of_open parts (by simp [← value, settled])]
      exact first.after (evaluateAny_runs kept unsure parts)

end

end Evaluation

end Condition

namespace Leaf

/-- Leaves in order, up to and including the first that fails validation. -/
def upToFailing : List Leaf → List Leaf
  | [] => []
  | l :: ls => l :: if l.check = .ok () then upToFailing ls else []

theorem upToFailing_eq (ls : List Leaf) :
    upToFailing ls = upToFirst (fun l => l.check ≠ .ok ()) ls := by
  induction ls with
  | nil => rfl
  | cons l ls ih =>
    rw [upToFailing, upToFirst_cons, ih]
    by_cases pass : l.check = .ok () <;> simp [pass]

/-- Where all leaves pass, none is left out, and those that follow are gone through as well. -/
theorem upToFailing_append_of_pass {ls : List Leaf} (pass : ∀ l ∈ ls, l.check = .ok ())
    (ms : List Leaf) : upToFailing (ls ++ ms) = ls ++ upToFailing ms := by
  rw [upToFailing_eq, upToFailing_eq]
  exact upToFirst_append_of_open (fun l member => by simp [pass l member]) ms

theorem upToFailing_of_pass {ls : List Leaf} (pass : ∀ l ∈ ls, l.check = .ok ()) :
    upToFailing ls = ls := by
  rw [upToFailing_eq]
  exact upToFirst_of_open fun l member => by simp [pass l member]

/-- Nothing behind a failing leaf matters. -/
theorem upToFailing_append_of_fail {ls : List Leaf} (fail : ¬∀ l ∈ ls, l.check = .ok ())
    (ms : List Leaf) : upToFailing (ls ++ ms) = upToFailing ls := by
  obtain ⟨l, member, fails⟩ : ∃ l ∈ ls, l.check ≠ .ok () := by simpa using fail
  rw [upToFailing_eq, upToFailing_eq]
  exact upToFirst_append_of_stop member (decide_eq_true fails) ms

end Leaf

namespace Condition

-- A part that passes lets the loop go on behind all its leaves; one that fails ends it at a leaf.
mutual

/-- **Validation is the validation of the leaves up to the first that fails.** -/
theorem validate_runs {cache : PatternCache} (sound : cache.Sound) : (c : Condition) →
    (c.validate cache).Runs Leaf.validate (Leaf.upToFailing c.leaves) cache
  | and parts => by simpa only [validate, leaves] using validateAll_runs sound parts
  | or parts => by simpa only [validate, leaves] using validateAll_runs sound parts
  | not part => by simpa only [validate, leaves] using validate_runs sound part
  | leaf l => by
    have single : Leaf.upToFailing [l] = [l] := by
      rw [Leaf.upToFailing, Leaf.upToFailing, ite_self]
    rw [validate, leaves, single]
    exact runs_step Leaf.validate l

theorem validateAll_runs {cache : PatternCache} (sound : cache.Sound) :
    (parts : List Condition) → (validateAll parts cache).Runs Leaf.validate
      (Leaf.upToFailing (leavesList parts)) cache
  | [] => by
    rw [validateAll, leavesList, Leaf.upToFailing]
    exact runs_nil _ _
  | part :: parts => by
    have first := validate_runs sound part
    have value := result_validate sound part
    have kept := (validate_accounts part cache).sound sound
    have passes := check_eq_ok_iff part
    rw [← value] at passes
    simp only [validateAll, leavesList]
    cases settled : (validate part cache).result with
    | error v =>
      have fail : ¬∀ l ∈ part.leaves, l.check = .ok () := by
        rw [← passes, settled]
        exact nofun
      rw [Leaf.upToFailing_append_of_fail fail]
      exact first
    | ok _ =>
      have pass : ∀ l ∈ part.leaves, l.check = .ok () := passes.1 settled
      rw [Leaf.upToFailing_of_pass pass] at first
      rw [Leaf.upToFailing_append_of_pass pass]
      exact first.after (validateAll_runs kept parts)

end

end Condition

/-! ## What a run looks up and asks for -/

theorem PatternCache.lookups_get (cache : PatternCache) (text : String) :
    lookups (cache.get text).events = [] := by
  refine List.filterMap_eq_nil_iff.2 fun e member => ?_
  have subject := subject?_of_mem_get member
  cases e with
  | lookedUp name => cases subject
  | _ => rfl

namespace Leaf

theorem requests_compare (l : Leaf) (actual : Value) (cache : PatternCache) :
    requests (l.compare actual cache).events = (l.wants? actual).toList := by
  unfold compare wants?
  cases l.operator with
  | substring => cases actual <;> cases l.value <;> rfl
  | regex =>
    cases actual with
    | text a =>
      cases l.value with
      | text e => exact cache.requests_get e
      | _ => rfl
    | _ => rfl
  | _ => rfl

theorem lookups_compare (l : Leaf) (actual : Value) (cache : PatternCache) :
    lookups (l.compare actual cache).events = [] := by
  unfold compare
  cases l.operator with
  | substring => cases actual.asText? <;> cases l.value.asText? <;> rfl
  | regex =>
    cases actual.asText? with
    | none => rfl
    | some a =>
      cases l.value.asText? with
      | none => rfl
      | some e => exact cache.lookups_get e
  | _ => rfl

/-- A leaf looks up its name, once. -/
theorem lookups_evaluate (look : String → Option Value) (l : Leaf) (cache : PatternCache) :
    lookups (l.evaluate look cache).events = [l.name] := by
  unfold evaluate
  dsimp only
  split
  · rfl
  · split
    · rfl
    · split <;> simp [lookups_compare, Event.name?]

theorem requests_evaluate (look : String → Option Value) (l : Leaf) (cache : PatternCache) :
    requests (l.evaluate look cache).events = (l.asks? look).toList := by
  rw [asks?_eq_bind_known]
  unfold evaluate
  dsimp only
  split
  · rename_i test
    have none (actual : Value) : l.wants? actual = none := by
      unfold wants?
      rw [test]
    cases known look l.name with
    | none => rfl
    | some actual => rw [Option.bind_some, none]; rfl
  · cases known look l.name with
    | none => rfl
    | some actual =>
      dsimp only
      split <;> simp [requests_compare, Event.pattern?]

theorem requests_validate (l : Leaf) (cache : PatternCache) :
    requests (l.validate cache).events = l.checks?.toList := by
  rw [checks?_eq]
  unfold validate
  cases l.flaw? with
  | some flaw => rfl
  | none =>
    cases l.pattern? with
    | none => rfl
    | some pattern => exact cache.requests_get pattern

end Leaf

namespace Condition

/-- The patterns that evaluating a condition asks for, in order. -/
def asks (look : String → Option Value) (c : Condition) : List String :=
  (c.reached (Leaf.verdict look)).filterMap (Leaf.asks? look)

/-- The patterns that validating a condition asks for, in order. -/
def checks (c : Condition) : List String :=
  (Leaf.upToFailing c.leaves).filterMap Leaf.checks?

variable {cache : PatternCache}

/-- **A run looks up the names of the leaves that it reaches.** -/
theorem lookups_evaluate (sound : cache.Sound) (look : String → Option Value) (c : Condition) :
    lookups (c.evaluate look cache).events =
      (c.reached (Leaf.verdict look)).map Leaf.name := by
  rw [(evaluate_runs look sound c).told, lookups,
    filterMap_inTurn (Leaf.evaluate look) (Leaf.lookups_evaluate look), List.map_eq_flatMap]

/-- **A run asks for the patterns of the leaves that it reaches.** -/
theorem requests_evaluate (sound : cache.Sound) (look : String → Option Value) (c : Condition) :
    requests (c.evaluate look cache).events = c.asks look := by
  rw [(evaluate_runs look sound c).told, requests,
    filterMap_inTurn (Leaf.evaluate look) (Leaf.requests_evaluate look), asks,
    List.filterMap_eq_flatMap_toList]

theorem requests_validate (sound : cache.Sound) (c : Condition) :
    requests (c.validate cache).events = c.checks := by
  rw [(validate_runs sound c).told, requests,
    filterMap_inTurn Leaf.validate Leaf.requests_validate, checks,
    List.filterMap_eq_flatMap_toList]

end Condition

namespace Session

/-- The patterns that an operation asks for, in order. -/
def asks (s : Session) : Operation → List String
  | .compile pattern => [pattern]
  | .search pattern _ => [pattern]
  | .evaluate c => c.asks s.attributes.find?
  | .evaluateShared serial =>
    match s.handle? serial with
    | some h => h.condition.asks s.attributes.find?
    | none => []
  | .validate c => c.checks
  | _ => []

/-- **A step asks for the patterns that its operation calls for.** -/
theorem requests_step {s : Session} (sound : s.caches.patterns.Sound) (op : Operation) :
    requests (s.step op).2.2 = s.asks op := by
  cases op with
  | intern c =>
    simp only [step, InternTable.intern]
    split <;> rfl
  | compile pattern =>
    rw [step_compile]
    exact s.caches.patterns.requests_get pattern
  | search pattern text =>
    rw [step_search]
    exact s.caches.patterns.requests_get pattern
  | evaluate c => exact c.requests_evaluate sound s.attributes.find?
  | evaluateShared serial =>
    simp only [step, asks]
    cases s.handle? serial with
    | none => rfl
    | some h => exact h.condition.requests_evaluate sound s.attributes.find?
  | validate c => exact c.requests_validate sound
  | _ => rfl

end Session

end Targeting

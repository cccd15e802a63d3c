import Targeting.Proofs.Compilation

/-!
# What operations do to a session

`Session.after` is the session that a sequence of operations leaves, and the answer at a place of a
run is that of a single step from the session before it (`answers_getElem?`). One step acts on the
four parts of a session independently: `step_session` and `step_patterns` say all that it does to
each, so that later proofs need not go through the operations again. An invariant that every step
keeps holds after every sequence (`after_induction`).
-/

set_option autoImplicit false

namespace Targeting

open Session

/-- The shared conditions after an operation. -/
def InternTable.update (t : InternTable) : Operation → InternTable
  | .intern c => (t.intern c).2.1
  | .forget c => (t.forget c).2
  | .clear => t.clear
  | _ => t

/-- The attributes after an operation. -/
def Attributes.update (a : Attributes) : Operation → Attributes
  | .set name value => a.insert name value
  | .unset name => a.erase name
  | _ => a

variable [Engine]

/-- The answer to a request for a pattern. -/
def Session.Answer.ofRequest : Except InvalidPattern Regex → Answer
  | .ok r => .regex r
  | .error e => .invalid e

/-- The answer to a request for a pattern that is looked for in a text. -/
def Session.Answer.ofSearch (text : String) : Except InvalidPattern Regex → Answer
  | .ok r => .found (r.occursIn text)
  | .error e => .invalid e

namespace Session

/-- The session after several operations. -/
def after (s : Session) (ops : List Operation) : Session :=
  ops.foldl (fun s op => (s.step op).2.1) s

/-- The handles that are out after an operation: only sharing a condition gives one out. -/
def handlesAfter (s : Session) : Operation → List Handle
  | .intern c => s.keep (s.caches.conditions.intern c).1
  | _ => s.handles

/-- The answers to several operations. -/
def answers (s : Session) (ops : List Operation) : List Answer :=
  (s.run ops).map (·.1)

@[simp] theorem after_nil (s : Session) : s.after [] = s := rfl

@[simp] theorem after_cons (s : Session) (op : Operation) (ops : List Operation) :
    s.after (op :: ops) = (s.step op).2.1.after ops := rfl

theorem after_append (s : Session) (ops later : List Operation) :
    s.after (ops ++ later) = (s.after ops).after later :=
  List.foldl_append

/-- What every step keeps, a sequence of operations keeps. -/
theorem after_induction {P : Session → Prop} (kept : ∀ s op, P s → P (s.step op).2.1)
    {s : Session} (h : P s) (ops : List Operation) : P (s.after ops) := by
  induction ops generalizing s with
  | nil => exact h
  | cons op ops ih => exact ih (kept s op h)

/-- A run up to the next place takes one step more. -/
theorem after_take_succ (s : Session) {ops : List Operation} {i : Nat} {op : Operation}
    (found : ops[i]? = some op) :
    s.after (ops.take (i + 1)) = ((s.after (ops.take i)).step op).2.1 := by
  rw [List.take_add_one, found, after_append]
  rfl

theorem answers_getElem? (s : Session) (ops : List Operation) (i : Nat) :
    (s.answers ops)[i]? = ops[i]?.map fun op => ((s.after (ops.take i)).step op).1 := by
  induction ops generalizing s i with
  | nil => simp [answers, run]
  | cons op ops ih =>
    cases i with
    | zero => simp [answers, run]
    | succ i => simpa [answers, run] using ih (s.step op).2.1 i

theorem step_compile (s : Session) (pattern : String) :
    s.step (.compile pattern) =
      let o := s.caches.patterns.get pattern
      (.ofRequest o.result, s.withPatterns o.cache, o.events) := by
  simp only [step]
  cases (s.caches.patterns.get pattern).result <;> rfl

theorem step_search (s : Session) (pattern text : String) :
    s.step (.search pattern text) =
      let o := s.caches.patterns.get pattern
      (.ofSearch text o.result, s.withPatterns o.cache, o.events) := by
  simp only [step]
  cases (s.caches.patterns.get pattern).result <;> rfl

/-- Apart from the pattern cache, a step does to each part of a session what its update says. -/
theorem step_session (s : Session) (op : Operation) :
    (s.step op).2.1 =
      ⟨⟨s.caches.conditions.update op, (s.step op).2.1.caches.patterns⟩, s.attributes.update op,
        s.handlesAfter op⟩ := by
  cases op with
  | compile pattern => rw [step_compile]; rfl
  | search pattern text => rw [step_search]; rfl
  | evaluateShared serial =>
    simp only [step]
    cases s.handle? serial <;> rfl
  | _ => rfl

theorem step_conditions (s : Session) (op : Operation) :
    (s.step op).2.1.caches.conditions = s.caches.conditions.update op := by
  rw [step_session]

theorem step_attributes (s : Session) (op : Operation) :
    (s.step op).2.1.attributes = s.attributes.update op := by
  rw [step_session]

theorem step_handles (s : Session) (op : Operation) :
    (s.step op).2.1.handles = s.handlesAfter op := by
  rw [step_session]

/-- A step that does not clear the caches does nothing with patterns but make requests. -/
theorem step_accounts (s : Session) {op : Operation} (stays : op ≠ .clear) :
    Outcome.Accounts s.caches.patterns
      ⟨(s.step op).1, (s.step op).2.1.caches.patterns, (s.step op).2.2⟩ := by
  cases op with
  | intern c =>
    refine Outcome.accounts_of_quiet _ ?_
    simp only [step, InternTable.intern]
    split <;> rfl
  | compile pattern =>
    rw [step_compile]
    exact (Outcome.accounts_get s.caches.patterns pattern).map Answer.ofRequest
  | search pattern text =>
    rw [step_search]
    exact (Outcome.accounts_get s.caches.patterns pattern).map (Answer.ofSearch text)
  | evaluate c =>
    exact (c.evaluate_accounts s.attributes.find? s.caches.patterns).map Answer.verdict
  | evaluateShared serial =>
    simp only [step]
    split
    · rename_i h _
      exact (h.condition.evaluate_accounts s.attributes.find? s.caches.patterns).map
        (Answer.sharedVerdict · h.condition.display)
    · exact Outcome.accounts_of_quiet _ rfl
  | validate c => exact (c.validate_accounts s.caches.patterns).map Answer.validated
  | clear => exact absurd rfl stays
  | _ => exact Outcome.accounts_of_quiet _ rfl

/-- The pattern cache is cleared or follows the requests of the step. -/
theorem step_patterns (s : Session) (op : Operation) :
    (s.step op).2.1.caches.patterns =
      match op with
      | .clear => s.caches.patterns.clear
      | _ => s.caches.patterns.askAll (requests (s.step op).2.2) := by
  split
  · rfl
  · rename_i stays
    exact (s.step_accounts stays).kept

theorem sound_step (s : Session) (op : Operation) (sound : s.caches.patterns.Sound) :
    (s.step op).2.1.caches.patterns.Sound := by
  rw [step_patterns]
  split
  · exact PatternCache.sound_clear _
  · exact sound.askAll _

/-- Every pattern cache that a session comes to is sound. -/
theorem sound_after (ops : List Operation) : (start.after ops).caches.patterns.Sound :=
  after_induction sound_step PatternCache.sound_empty ops

end Session

end Targeting

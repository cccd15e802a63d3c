import Targeting.Audience.Membership
import Targeting.Pattern.Compile
import Targeting.Validation

/-!
# Sessions

A session is any sequence of operations on the two caches and on one set of attributes. Handles stay
in use after the caches forget them, so a session keeps every handle it was given. `Session.step`
says what one operation answers and what it changes; `Session.run` says it of a sequence. A session
goes with any engine for patterns; the engine that is run is imported here.
-/

set_option autoImplicit false

namespace Targeting

variable [Engine]

/-- What a session carries from one operation to the next. -/
structure Session where
  caches : Caches
  attributes : Attributes
  /-- The handles that were given out, in the order in which they were new. -/
  handles : List Handle

namespace Session

/-- A session at its start. -/
def start : Session := ⟨.empty, .empty, []⟩

instance : Inhabited Session := ⟨start⟩

/-- An operation. -/
inductive Operation where
  /-- Share a condition. -/
  | intern (c : Condition)
  /-- Take a condition out of the shared ones. -/
  | forget (c : Condition)
  /-- Ask for a pattern. -/
  | compile (pattern : String)
  /-- Ask for a pattern and look for it in a text. -/
  | search (pattern text : String)
  /-- Put a value under a name. -/
  | set (name : String) (value : Value)
  /-- Remove what is under a name. -/
  | unset (name : String)
  /-- Evaluate a condition against the attributes. -/
  | evaluate (c : Condition)
  /-- Evaluate a shared condition against the attributes, given its serial number. -/
  | evaluateShared (serial : Nat)
  /-- Check a condition. -/
  | validate (c : Condition)
  /-- Forget everything in both caches. -/
  | clear
  /-- Do nothing. -/
  | rest

/-- What an operation answers. -/
inductive Answer where
  /-- The shared condition. -/
  | shared (h : Handle)
  /-- The shared condition that was taken out, if there was one. -/
  | forgotten (h? : Option Handle)
  /-- The compiled pattern. -/
  | regex (r : Regex)
  /-- Whether the pattern occurs in the text. -/
  | found (b : Bool)
  /-- The text is no pattern. -/
  | invalid (e : InvalidPattern)
  /-- What was under the name before. -/
  | previous (v? : Option Value)
  /-- What the condition says. -/
  | verdict (v : Verdict)
  /-- What a shared condition says, and its text. -/
  | sharedVerdict (v : Verdict) (text : String)
  /-- No shared condition has that serial number. -/
  | noSuchHandle
  /-- What validation finds. -/
  | validated (r : Except Violation Unit)
  /-- Nothing to tell. -/
  | done

/-- The session with another pattern cache. -/
def withPatterns (s : Session) (cache : PatternCache) : Session :=
  { s with caches := ⟨s.caches.conditions, cache⟩ }

/-- Keeps a handle, unless it was given out before. -/
def keep (s : Session) (h : Handle) : List Handle :=
  if s.handles.any fun k => k.serial == h.serial then s.handles else s.handles ++ [h]

/-- The handle with a serial number, if it was given out. -/
def handle? (s : Session) (serial : Nat) : Option Handle :=
  s.handles.find? fun h => h.serial == serial

/-- Carries out one operation: its answer, the session afterwards, and what happened. -/
def step (s : Session) : Operation → Answer × Session × List Event
  | .intern c =>
    let (h, conditions, events) := s.caches.conditions.intern c
    (.shared h, ⟨⟨conditions, s.caches.patterns⟩, s.attributes, s.keep h⟩, events)
  | .forget c =>
    let (h?, conditions) := s.caches.conditions.forget c
    (.forgotten h?, { s with caches := ⟨conditions, s.caches.patterns⟩ }, [])
  | .compile pattern =>
    let o := s.caches.patterns.get pattern
    match o.result with
    | .ok r => (.regex r, s.withPatterns o.cache, o.events)
    | .error e => (.invalid e, s.withPatterns o.cache, o.events)
  | .search pattern text =>
    let o := s.caches.patterns.get pattern
    match o.result with
    | .ok r => (.found (r.occursIn text), s.withPatterns o.cache, o.events)
    | .error e => (.invalid e, s.withPatterns o.cache, o.events)
  | .set name value =>
    (.previous (s.attributes.find? name), { s with attributes := s.attributes.insert name value },
      [])
  | .unset name =>
    (.previous (s.attributes.find? name), { s with attributes := s.attributes.erase name }, [])
  | .evaluate c =>
    let o := c.evaluate s.attributes.find? s.caches.patterns
    (.verdict o.result, s.withPatterns o.cache, o.events)
  | .evaluateShared serial =>
    match s.handle? serial with
    | some h =>
      let o := h.condition.evaluate s.attributes.find? s.caches.patterns
      (.sharedVerdict o.result h.condition.display, s.withPatterns o.cache, o.events)
    | none => (.noSuchHandle, s, [])
  | .validate c =>
    let o := c.validate s.caches.patterns
    (.validated o.result, s.withPatterns o.cache, o.events)
  | .clear => (.done, { s with caches := s.caches.clear }, [])
  | .rest => (.done, s, [])

/-- Carries out operations one after the other: the answer to each with the session after it, and
what happened. -/
def run (s : Session) : List Operation → List (Answer × Session × List Event)
  | [] => []
  | op :: ops =>
    let r := s.step op
    r :: run r.2.1 ops

end Session

end Targeting

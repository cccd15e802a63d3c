import Targeting.Event
import Targeting.Pattern.Engine
import Targeting.Table

/-!
# Compiled patterns are shared

A pattern is compiled when it is asked for the first time; after that every request gets the same
compiled pattern, or the same refusal. Whether two requests got the very same compiled pattern shows
in its serial number: each successful compilation has its own. Which engine compiles is left open.
-/

set_option autoImplicit false

namespace Targeting

/-- A text that is no pattern, and why. -/
structure InvalidPattern where
  pattern : String
  refusal : Pattern.Refusal
deriving DecidableEq

namespace InvalidPattern

/-- Why the text cannot be used. -/
def cause (e : InvalidPattern) : Pattern.Fault :=
  e.refusal.cause

/-- The words for a text that is no pattern, without the engine's. -/
def message (e : InvalidPattern) : String :=
  "Invalid pattern '" ++ e.pattern ++ "'"

/-- The words for a text that is no pattern. -/
def text (e : InvalidPattern) : String :=
  e.message ++ ": " ++ e.refusal.reason

end InvalidPattern

variable [Engine]

/-- A compiled pattern, as it is shared. -/
structure Regex where
  /-- Tells this compilation from every other. -/
  serial : Nat
  /-- The text it was compiled from. -/
  source : String
  /-- What is searched for. -/
  pattern : Engine.Program

/-- Does the pattern occur in a text? -/
def Regex.occursIn (r : Regex) (text : String) : Bool :=
  Engine.occursIn r.pattern text

/-- The compiled patterns by their texts, refusals included. -/
structure PatternCache where
  table : Table String (Except Pattern.Refusal Regex)
  /-- The serial number of the next compiled pattern. -/
  next : Nat

/-- What an operation on the pattern cache results in: a value, the cache afterwards, and what
happened. -/
structure Outcome (α : Type) where
  result : α
  cache : PatternCache
  events : List Event

namespace Outcome

variable {α β : Type}

/-- The same outcome with another value. -/
def map (f : α → β) (o : Outcome α) : Outcome β :=
  ⟨f o.result, o.cache, o.events⟩

/-- The same outcome with something that happened before. -/
def after (events : List Event) (o : Outcome α) : Outcome α :=
  ⟨o.result, o.cache, events ++ o.events⟩

@[simp] theorem map_result (f : α → β) (o : Outcome α) : (o.map f).result = f o.result := rfl

@[simp] theorem map_cache (f : α → β) (o : Outcome α) : (o.map f).cache = o.cache := rfl

@[simp] theorem map_events (f : α → β) (o : Outcome α) : (o.map f).events = o.events := rfl

@[simp] theorem after_result (events : List Event) (o : Outcome α) :
    (o.after events).result = o.result := rfl

@[simp] theorem after_cache (events : List Event) (o : Outcome α) :
    (o.after events).cache = o.cache := rfl

@[simp] theorem after_events (events : List Event) (o : Outcome α) :
    (o.after events).events = events ++ o.events := rfl

end Outcome

namespace PatternCache

/-- Nothing was compiled yet. -/
def empty : PatternCache := ⟨.empty, 0⟩

instance : Inhabited PatternCache := ⟨empty⟩

/-- How many patterns were asked for, refused ones included. -/
def size (cache : PatternCache) : Nat :=
  cache.table.size

/-- Forgets every pattern. Serial numbers go on, since compiled patterns may still be in use. -/
def clear (cache : PatternCache) : PatternCache :=
  ⟨.empty, cache.next⟩

/-- The answer to a request, from what the cache holds for the text. -/
def answer (text : String) : Except Pattern.Refusal Regex → Except InvalidPattern Regex
  | .ok regex => .ok regex
  | .error refusal => .error ⟨text, refusal⟩

/-- The compiled form of a text, from the cache or compiled now and kept there. -/
def get (cache : PatternCache) (text : String) : Outcome (Except InvalidPattern Regex) :=
  match cache.table.find? text with
  | some known => ⟨answer text known, cache, [.requested text]⟩
  | none =>
    match Engine.compile text with
    | .ok pattern =>
      let regex : Regex := ⟨cache.next, text, pattern⟩
      ⟨.ok regex, ⟨cache.table.insert text (.ok regex), cache.next + 1⟩,
        [.requested text, .compiled text]⟩
    | .error refusal =>
      ⟨.error ⟨text, refusal⟩, ⟨cache.table.insert text (.error refusal), cache.next⟩,
        [.requested text, .compiled text, .rejected text refusal]⟩

end PatternCache

end Targeting

import Targeting.Audience.Basic
import Targeting.Pattern.Engine
import Targeting.Verdict

/-!
# What happens during a run

Every operation that looks something up or fills a cache says what it did as a list of events, in
order. Three views are read off that list: the names that were looked up, the patterns that were
asked for, and the log. An event that belongs in the log has one line there, and its level says who
should care.
-/

set_option autoImplicit false

namespace Targeting

/-- Something that happened. -/
inductive Event where
  /-- An attribute was looked up by its name. -/
  | lookedUp (name : String)
  /-- A pattern was asked for. -/
  | requested (pattern : String)
  /-- A pattern was asked for the first time and compiled. -/
  | compiled (pattern : String)
  /-- The pattern that was just compiled is none. -/
  | rejected (pattern : String) (refusal : Pattern.Refusal)
  /-- A leaf found nothing under its name. -/
  | missing (leaf : Leaf)
  /-- A leaf found a value that its operator cannot compare with the expected one. -/
  | incomparable (leaf : Leaf) (actual : Value)
  /-- A condition was put among the shared ones. -/
  | interned (condition : Condition)
  /-- An audience was decided for a user. -/
  | decided (id name : String) (verdict : Verdict)
deriving DecidableEq

/-- Who should care about a line of the log. -/
inductive Level where
  | trace
  | debug
  | warn
deriving DecidableEq, Repr

/-- The word for a level. -/
def Level.text : Level → String
  | trace => "trace"
  | debug => "debug"
  | warn => "warn"

/-- A line of the log. -/
structure Record where
  level : Level
  message : String
  /-- What the message goes on to give as the reason, in the words of somebody else. -/
  reason? : Option String
deriving DecidableEq, Repr

/-- The words of a line. -/
def Record.text (r : Record) : String :=
  match r.reason? with
  | some reason => r.message ++ ": " ++ reason
  | none => r.message

namespace Event

/-- The line of the log that an event has, if it has one. -/
def record? : Event → Option Record
  | lookedUp _ => none
  | requested _ => none
  | compiled pattern => some ⟨.trace, "compiling pattern '" ++ pattern ++ "'", none⟩
  | rejected pattern refusal =>
    some ⟨.warn, "pattern '" ++ pattern ++ "' does not compile", some refusal.reason⟩
  | missing leaf =>
    some ⟨.debug, "attribute '" ++ leaf.name ++ "' missing, condition " ++ leaf.display ++
      " is unknown", none⟩
  | incomparable leaf actual =>
    some ⟨.debug, "attribute '" ++ leaf.name ++ "' has " ++ actual.kind ++ " value, condition " ++
      leaf.display ++ " is unknown", none⟩
  | interned condition => some ⟨.trace, "interning condition " ++ condition.display, none⟩
  | decided id name verdict =>
    some ⟨.debug, "audience '" ++ name ++ "' (" ++ id ++ ") evaluated to " ++ verdict.text, none⟩

example : (rejected "(" ⟨.malformed, "unclosed group"⟩).record?.map Record.text =
    some "pattern '(' does not compile: unclosed group" := rfl

/-- The name that was looked up, if that is what happened. -/
def name? : Event → Option String
  | lookedUp name => some name
  | _ => none

/-- The pattern that was asked for, if that is what happened. -/
def pattern? : Event → Option String
  | requested pattern => some pattern
  | _ => none

end Event

/-- The names that were looked up, in order. -/
def lookups (events : List Event) : List String :=
  events.filterMap Event.name?

/-- The patterns that were asked for, in order. -/
def requests (events : List Event) : List String :=
  events.filterMap Event.pattern?

/-- The lines of the log, in order. -/
def log (events : List Event) : List Record :=
  events.filterMap Event.record?

@[simp] theorem lookups_nil : lookups [] = [] := rfl

@[simp] theorem lookups_cons (e : Event) (events : List Event) :
    lookups (e :: events) = e.name?.toList ++ lookups events := by
  unfold lookups
  cases h : e.name? <;> simp [h]

@[simp] theorem lookups_append (events later : List Event) :
    lookups (events ++ later) = lookups events ++ lookups later :=
  List.filterMap_append

@[simp] theorem requests_nil : requests [] = [] := rfl

@[simp] theorem requests_cons (e : Event) (events : List Event) :
    requests (e :: events) = e.pattern?.toList ++ requests events := by
  unfold requests
  cases h : e.pattern? <;> simp [h]

@[simp] theorem requests_append (events later : List Event) :
    requests (events ++ later) = requests events ++ requests later :=
  List.filterMap_append

end Targeting

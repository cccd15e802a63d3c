import Targeting.PatternCache
import Targeting.Source

/-!
# Evaluating conditions

A condition is evaluated against something that knows attributes by name. The parts of a composite
are evaluated from left to right and no further than the first one that settles the matter: `no` for
and, `yes` for or. A leaf looks its attribute up once; nothing there and null are the same. What
cannot be compared is unknown, and the log says why.

Evaluation takes the pattern cache along, since a leaf may ask for a pattern.
-/

set_option autoImplicit false

namespace Targeting

/-- What a source knows under a name, null being the same as nothing. -/
def known (look : String → Option Value) (name : String) : Option Value :=
  (look name).filter fun v => !v.isNull

namespace Operator

/-- The answer of a numeric operator, from how the attribute compares with the expected number. -/
def ofOrdering : Operator → Ordering → Bool
  | gt, o => o == .gt
  | ge, o => o != .lt
  | lt, o => o == .lt
  | le, o => o != .gt
  | _, _ => false

end Operator

/-- Does one text occur in another? -/
def occursWithin (part : List Char) : List Char → Bool
  | [] => part.isEmpty
  | c :: cs => part.isPrefixOf (c :: cs) || occursWithin part cs

namespace Leaf

/-- How two finite numbers compare, if both values are that. -/
def compare? (actual expected : Value) : Option Ordering :=
  match actual.asFinite?, expected.asFinite? with
  | some a, some e => a.order? e
  | _, _ => none

/-- Is the attribute equal to the expected value, if they are of one kind? Numbers are compared by
value. -/
def equal? (actual expected : Value) : Option Bool :=
  match actual, expected with
  | .text a, .text e => some (a == e)
  | .flag a, .flag e => some (a == e)
  | .number _, .number _ => (compare? actual expected).map (· == .eq)
  | _, _ => none

variable [Engine]

/-- The answer of a leaf for an attribute that is there; none if the two values cannot be
compared. -/
def compare (l : Leaf) (actual : Value) (cache : PatternCache) : Outcome (Option Bool) :=
  match l.operator with
  | .present => ⟨some true, cache, []⟩
  | .exact => ⟨equal? actual l.value, cache, []⟩
  | .substring =>
    match actual.asText?, l.value.asText? with
    | some a, some e => ⟨some (occursWithin e.toList a.toList), cache, []⟩
    | _, _ => ⟨none, cache, []⟩
  | .regex =>
    match actual.asText?, l.value.asText? with
    | some a, some e => (cache.get e).map fun r => r.toOption.map fun regex => regex.occursIn a
    | _, _ => ⟨none, cache, []⟩
  | op => ⟨(compare? actual l.value).map op.ofOrdering, cache, []⟩

/-- Evaluates a leaf. -/
def evaluate (look : String → Option Value) (l : Leaf) (cache : PatternCache) : Outcome Verdict :=
  let actual? := known look l.name
  if l.operator = .present then
    ⟨.ofBool actual?.isSome, cache, [.lookedUp l.name]⟩
  else
    match actual? with
    | none => ⟨.unknown, cache, [.lookedUp l.name, .missing l]⟩
    | some actual =>
      let o := l.compare actual cache
      match o.result with
      | some b => ⟨.ofBool b, o.cache, .lookedUp l.name :: o.events⟩
      | none => ⟨.unknown, o.cache, .lookedUp l.name :: o.events ++ [.incomparable l actual]⟩

end Leaf

namespace Condition

variable [Engine]

mutual

/-- Evaluates a condition. -/
def evaluate (look : String → Option Value) : Condition → PatternCache → Outcome Verdict
  | and parts, cache => evaluateAll look false parts cache
  | or parts, cache => evaluateAny look false parts cache
  | not part, cache => (evaluate look part cache).map .not
  | leaf l, cache => l.evaluate look cache

/-- Evaluates parts up to the first that is `no`; `unsure` tells that one before them was
unknown. -/
def evaluateAll (look : String → Option Value) (unsure : Bool) :
    List Condition → PatternCache → Outcome Verdict
  | [], cache => ⟨if unsure then .unknown else .yes, cache, []⟩
  | part :: parts, cache =>
    let first := evaluate look part cache
    match first.result with
    | .no => first
    | .unknown => (evaluateAll look true parts first.cache).after first.events
    | .yes => (evaluateAll look unsure parts first.cache).after first.events

/-- Evaluates parts up to the first that is `yes`; `unsure` tells that one before them was
unknown. -/
def evaluateAny (look : String → Option Value) (unsure : Bool) :
    List Condition → PatternCache → Outcome Verdict
  | [], cache => ⟨if unsure then .unknown else .no, cache, []⟩
  | part :: parts, cache =>
    let first := evaluate look part cache
    match first.result with
    | .yes => first
    | .unknown => (evaluateAny look true parts first.cache).after first.events
    | .no => (evaluateAny look unsure parts first.cache).after first.events

end

/-- Evaluates a condition against a source. -/
def evaluateOn {σ : Type} [Source σ] (c : Condition) (source : σ) (cache : PatternCache) :
    Outcome Verdict :=
  c.evaluate (Source.lookup source) cache

end Condition

end Targeting

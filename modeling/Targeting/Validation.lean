import Targeting.PatternCache
import Targeting.Text.Blank

/-!
# Checking conditions before use

Evaluation never fails, but a leaf that can only ever be unknown is a mistake of whoever wrote it:
one without a name, one that compares with nothing, one whose expected value its operator cannot
compare, one whose pattern is none. Validation finds the first such leaf from left to right.
-/

set_option autoImplicit false

namespace Targeting

/-- Why a leaf can never be decided. -/
inductive Flaw where
  /-- The name is blank. -/
  | blankName
  /-- There is nothing to compare with. -/
  | nullValue
  /-- The expected number is a NaN or infinite. -/
  | notFinite
  /-- The operator compares numbers, and the expected value is none. -/
  | needsNumber
  /-- The operator looks into texts, and the expected value is none. -/
  | needsText
deriving DecidableEq, Repr

/-- The words for a flaw. -/
def Flaw.text : Flaw → String
  | blankName => "attribute name is empty"
  | nullValue => "expected value is null"
  | notFinite => "expected number is not finite"
  | needsNumber => "operator requires a number"
  | needsText => "operator requires a string"

/-- What validation finds. -/
inductive Violation where
  /-- A leaf that can never be decided. -/
  | flawed (leaf : Leaf) (flaw : Flaw)
  /-- A leaf whose pattern is none. -/
  | badPattern (e : InvalidPattern)
deriving DecidableEq

/-- The words for a violation. -/
def Violation.message : Violation → String
  | flawed leaf flaw => "Invalid condition: " ++ leaf.display ++ ": " ++ flaw.text
  | badPattern e => e.text

/-- The flaw of a number that is expected, if it has one. -/
def Binary64.flaw? (x : Binary64) : Option Flaw :=
  if x.isFinite then none else some .notFinite

namespace Leaf

/-- The flaw of a leaf that shows without compiling its pattern, if it has one. -/
def flaw? (l : Leaf) : Option Flaw :=
  if Text.isBlank l.name then some .blankName
  else
    match l.operator, l.value with
    | .present, _ => none
    | _, .null => some .nullValue
    | .exact, .number x => x.flaw?
    | .exact, _ => none
    | .substring, .text _ => none
    | .substring, _ => some .needsText
    | .regex, .text _ => none
    | .regex, _ => some .needsText
    | _, .number x => x.flaw?
    | _, _ => some .needsNumber

/-- The pattern of a leaf that looks for one. -/
def pattern? (l : Leaf) : Option String :=
  match l.operator with
  | .regex => l.value.asText?
  | _ => none

variable [Engine]

/-- Validates a leaf. Only the pattern of an otherwise sound leaf is asked for. -/
def validate (l : Leaf) (cache : PatternCache) : Outcome (Except Violation Unit) :=
  match l.flaw? with
  | some flaw => ⟨.error (.flawed l flaw), cache, []⟩
  | none =>
    match l.pattern? with
    | none => ⟨.ok (), cache, []⟩
    | some pattern =>
      (cache.get pattern).map fun
        | .ok _ => .ok ()
        | .error e => .error (.badPattern e)

end Leaf

namespace Condition

variable [Engine]

mutual

/-- Validates a condition: the first violation of a leaf from left to right. -/
def validate : Condition → PatternCache → Outcome (Except Violation Unit)
  | and parts, cache => validateAll parts cache
  | or parts, cache => validateAll parts cache
  | not part, cache => validate part cache
  | leaf l, cache => l.validate cache

/-- Validates parts up to the first violation. -/
def validateAll : List Condition → PatternCache → Outcome (Except Violation Unit)
  | [], cache => ⟨.ok (), cache, []⟩
  | part :: parts, cache =>
    let first := validate part cache
    match first.result with
    | .error _ => first
    | .ok _ => (validateAll parts first.cache).after first.events

end

end Condition

end Targeting

/-!
# Verdicts

The three values a rule can have for a user. `unknown` stands for data that is missing or of the
wrong type; the connectives are Kleene's strong ones, so an unknown part counts only where the
known parts leave the answer open.
-/

set_option autoImplicit false

namespace Targeting

/-- What a rule says of a user. -/
inductive Verdict where
  | yes
  | no
  | unknown
deriving DecidableEq, Repr, Hashable, Inhabited

namespace Verdict

/-- Negation: the known verdicts change places. -/
def not : Verdict → Verdict
  | yes => no
  | no => yes
  | unknown => unknown

/-- Conjunction: `no` dominates, then `unknown`. -/
def and : Verdict → Verdict → Verdict
  | no, _ => no
  | _, no => no
  | yes, yes => yes
  | _, _ => unknown

/-- Disjunction: `yes` dominates, then `unknown`. -/
def or : Verdict → Verdict → Verdict
  | yes, _ => yes
  | _, yes => yes
  | no, no => no
  | _, _ => unknown

/-- A decided question as a verdict. -/
def ofBool : Bool → Verdict
  | true => yes
  | false => no

/-- The truth value of a known verdict. -/
def toBool? : Verdict → Option Bool
  | yes => some true
  | no => some false
  | unknown => none

/-- The word for a verdict, in texts for people and in stored data. -/
def text : Verdict → String
  | yes => "true"
  | no => "false"
  | unknown => "unknown"

/-- Every verdict, in the order in which its word is offered to a reader. -/
def every : List Verdict := [yes, no, unknown]

@[simp] theorem not_not (v : Verdict) : v.not.not = v := by
  cases v <;> rfl

theorem not_and (a b : Verdict) : (a.and b).not = a.not.or b.not := by
  cases a <;> cases b <;> rfl

theorem not_or (a b : Verdict) : (a.or b).not = a.not.and b.not := by
  cases a <;> cases b <;> rfl

@[simp] theorem and_no (v : Verdict) : v.and no = no := by
  cases v <;> rfl

@[simp] theorem and_yes (v : Verdict) : v.and yes = v := by
  cases v <;> rfl

@[simp] theorem or_yes (v : Verdict) : v.or yes = yes := by
  cases v <;> rfl

@[simp] theorem or_no (v : Verdict) : v.or no = v := by
  cases v <;> rfl

@[simp] theorem toBool?_ofBool (b : Bool) : (ofBool b).toBool? = some b := by
  cases b <;> rfl

end Verdict

end Targeting

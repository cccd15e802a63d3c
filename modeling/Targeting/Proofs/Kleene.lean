import Targeting.Proofs.Run
import Targeting.Proofs.Uncached

/-!
# Evaluation is Kleene's three-valued logic

`Condition.kleene` gives a condition its value without any order or short cut: every part has its
value, and the values are joined by the connectives of three-valued logic. The loops of evaluation
stop early and remember an unknown part in a flag; that comes to the same
(`Condition.verdict_eq_kleene`), in every state of the caches.
-/

set_option autoImplicit false

namespace Targeting

namespace Verdict

/-- Once the conjunction is `no` it stays so. -/
theorem foldl_and_no (vs : List Verdict) : vs.foldl and no = no := by
  induction vs with
  | nil => rfl
  | cons v vs ih => exact ih

/-- Once the disjunction is `yes` it stays so. -/
theorem foldl_or_yes (vs : List Verdict) : vs.foldl or yes = yes := by
  induction vs with
  | nil => rfl
  | cons v vs ih => exact ih

end Verdict

namespace Condition

variable (value : Leaf → Verdict)

mutual

/-- The value of a condition from the values of all its parts. -/
def kleene : Condition → Verdict
  | and parts => (kleenes parts).foldl .and .yes
  | or parts => (kleenes parts).foldl .or .no
  | not part => (kleene part).not
  | leaf l => value l

/-- The values of several conditions. -/
def kleenes : List Condition → List Verdict
  | [] => []
  | part :: parts => kleene part :: kleenes parts

end

-- In both loops the flag is the value of the parts so far, which is not yet the settling one.
mutual

/-- Stopping early and remembering unknown parts gives the value from all parts. -/
theorem verdict_eq_kleene : (c : Condition) → c.verdict value = c.kleene value
  | and parts => by
    simp only [verdict, kleene]
    exact verdictAll_eq_foldl false parts
  | or parts => by
    simp only [verdict, kleene]
    exact verdictAny_eq_foldl false parts
  | not part => by
    simp only [verdict, kleene, verdict_eq_kleene part]
  | leaf l => rfl

theorem verdictAll_eq_foldl (unsure : Bool) : (parts : List Condition) →
    verdictAll value unsure parts =
      (kleenes value parts).foldl .and (if unsure then .unknown else .yes)
  | [] => rfl
  | part :: parts => by
    have first := verdict_eq_kleene part
    simp only [verdictAll, kleenes, List.foldl_cons, first]
    cases kleene value part with
    | no => rw [Verdict.and_no, Verdict.foldl_and_no]
    | unknown =>
      have unknown : Verdict.and (if unsure then .unknown else .yes) .unknown = .unknown := by
        cases unsure <;> rfl
      rw [unknown]
      exact verdictAll_eq_foldl true parts
    | yes =>
      rw [Verdict.and_yes]
      exact verdictAll_eq_foldl unsure parts

theorem verdictAny_eq_foldl (unsure : Bool) : (parts : List Condition) →
    verdictAny value unsure parts =
      (kleenes value parts).foldl .or (if unsure then .unknown else .no)
  | [] => rfl
  | part :: parts => by
    have first := verdict_eq_kleene part
    simp only [verdictAny, kleenes, List.foldl_cons, first]
    cases kleene value part with
    | yes => rw [Verdict.or_yes, Verdict.foldl_or_yes]
    | unknown =>
      have unknown : Verdict.or (if unsure then .unknown else .no) .unknown = .unknown := by
        cases unsure <;> rfl
      rw [unknown]
      exact verdictAny_eq_foldl true parts
    | no =>
      rw [Verdict.or_no]
      exact verdictAny_eq_foldl unsure parts

end

variable [Engine]

/-- On a sound cache a condition is evaluated to the value that its leaves give it. -/
theorem result_eq_kleene (look : String → Option Value) {cache : PatternCache}
    (sound : cache.Sound) (c : Condition) :
    (c.evaluate look cache).result = c.kleene (Leaf.verdict look) := by
  rw [result_evaluate look sound, verdict_eq_kleene]

/-- **Evaluation is the value from all parts.** Whatever a session did before, evaluating a
condition gives its Kleene value from the verdicts of its leaves, each leaf evaluated in any state
that a session comes to. -/
theorem evaluate_eq_kleene (before : List Session.Operation)
    (moment : Leaf → List Session.Operation) (look : String → Option Value) (c : Condition) :
    (c.evaluate look (Session.start.after before).caches.patterns).result =
      c.kleene fun l => (l.evaluate look (Session.start.after (moment l)).caches.patterns).result := by
  have leaves (l : Leaf) :
      (l.evaluate look (Session.start.after (moment l)).caches.patterns).result = l.verdict look :=
    l.result_evaluate (Session.sound_after _) look
  simp only [leaves]
  rw [result_evaluate look (Session.sound_after before), verdict_eq_kleene]

end Condition

end Targeting

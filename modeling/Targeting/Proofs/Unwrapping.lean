import Mathlib.Logic.Relation
import Targeting.Proofs.Composition

/-!
# Structure that says nothing

A conjunction within a conjunction, a disjunction within a disjunction, a composite of a single part
and a double negation can be taken away or put in without anybody noticing: joining does not depend on
how parts are grouped (`Condition.Unwraps.interchangeable`). This may be done anywhere in a condition,
any number of times (`Condition.interchangeable_of_unwraps`).
-/

set_option autoImplicit false

namespace Targeting

open Evaluation

namespace Condition

/-- One layer is taken away that says nothing. -/
inductive Unwraps : Condition → Condition → Prop
  /-- The parts of a conjunction within a conjunction take its place. -/
  | nestedAnd (before inner later : List Condition) :
    Unwraps (and (before ++ and inner :: later)) (and (before ++ inner ++ later))
  /-- The parts of a disjunction within a disjunction take its place. -/
  | nestedOr (before inner later : List Condition) :
    Unwraps (or (before ++ or inner :: later)) (or (before ++ inner ++ later))
  /-- The only part of a conjunction takes its place. -/
  | onlyAnd (part : Condition) : Unwraps (and [part]) part
  /-- The only part of a disjunction takes its place. -/
  | onlyOr (part : Condition) : Unwraps (or [part]) part
  /-- Two negations cancel. -/
  | notNot (part : Condition) : Unwraps (not (not part)) part

/-- One layer that says nothing is taken away somewhere in a condition. -/
inductive UnwrapsWithin : Condition → Condition → Prop
  | within (k : Context) {c d : Condition} (h : Unwraps c d) : UnwrapsWithin (k.fill c) (k.fill d)

section AnyEngine

variable [Engine]

theorem evaluate_nested_and (look : String → Option Value) (before inner later : List Condition) :
    (and (before ++ and inner :: later)).evaluate look =
      (and (before ++ inner ++ later)).evaluate look := by
  rw [evaluate_and_append, evaluate_and_cons, ← evaluate_and_append, ← evaluate_and_append,
    List.append_assoc]

theorem evaluate_nested_or (look : String → Option Value) (before inner later : List Condition) :
    (or (before ++ or inner :: later)).evaluate look =
      (or (before ++ inner ++ later)).evaluate look := by
  rw [evaluate_or_append, evaluate_or_cons, ← evaluate_or_append, ← evaluate_or_append,
    List.append_assoc]

/-- A layer that says nothing does not show. -/
theorem Unwraps.interchangeable {c d : Condition} (h : Unwraps c d) : Interchangeable c d := by
  cases h with
  | nestedAnd before inner later =>
    refine .of_leaves (evaluate_nested_and · before inner later) ?_
    simp only [leaves, leavesList_append, leavesList, List.append_assoc]
  | nestedOr before inner later =>
    refine .of_leaves (evaluate_nested_or · before inner later) ?_
    simp only [leaves, leavesList_append, leavesList, List.append_assoc]
  | onlyAnd =>
    refine .of_leaves (fun look => ?_) ?_
    · rw [evaluate_and_cons, evaluate_and_nil, both_settled]
    · simp only [leaves, leavesList, List.append_nil]
  | onlyOr =>
    refine .of_leaves (fun look => ?_) ?_
    · rw [evaluate_or_cons, evaluate_or_nil, either_settled]
    · simp only [leaves, leavesList, List.append_nil]
  | notNot =>
    refine .of_leaves (fun look => ?_) ?_
    · rw [evaluate_not, evaluate_not, opposite_opposite]
    · simp only [leaves]

theorem UnwrapsWithin.interchangeable {c d : Condition} (h : UnwrapsWithin c d) :
    Interchangeable c d := by
  obtain ⟨k, h⟩ := h
  exact h.interchangeable.fill k

/-- **Structure that says nothing does not show.** Say one condition comes from another by taking
away or putting in, at any places and any number of times, a composite directly within one of its
kind, a composite of a single part, or a double negation. Then on every source and in every state of
the pattern cache both evaluate to the same verdict, with the same look-ups, the same log and the same
cache afterwards, and validating them comes to the same. -/
theorem interchangeable_of_unwraps {c d : Condition} (h : Relation.EqvGen UnwrapsWithin c d) :
    Interchangeable c d := by
  induction h with
  | rel c d step => exact step.interchangeable
  | refl c => exact .refl c
  | symm c d _ ih => exact ih.symm
  | trans c d e _ _ first second => exact first.trans second

end AnyEngine

/-- An empty conjunction, a double negation and a disjunction within a disjunction go, and a
disjunction of a single part comes: the rule stays what it was. -/
theorem tidied_rule_stays :
    let country : Condition := .exact "country" (.text "NZ")
    let adult : Condition := .test "age" .ge (.number ⟨0x4032000000000000⟩)
    let tester : Condition := .or [.present "beta", .test "plan" .regex (.text "a")]
    let rule : Condition := .and [country, .and [], .not (.not (.or [adult, tester]))]
    let tidied : Condition :=
      .or [.and [country, .or [adult, .present "beta", .test "plan" .regex (.text "a")]]]
    Relation.EqvGen UnwrapsWithin rule tidied ∧ Interchangeable rule tidied := by
  intro country adult tester rule tidied
  have first : UnwrapsWithin rule (.and [country, .not (.not (.or [adult, tester]))]) :=
    .within .here (.nestedAnd [country] [] [.not (.not (.or [adult, tester]))])
  have second : UnwrapsWithin (.and [country, .not (.not (.or [adult, tester]))])
      (.and [country, .or [adult, tester]]) :=
    .within (.and [country] .here []) (.notNot (.or [adult, tester]))
  have third : UnwrapsWithin (.and [country, .or [adult, tester]])
      (.and [country, .or [adult, .present "beta", .test "plan" .regex (.text "a")]]) :=
    .within (.and [country] .here [])
      (.nestedOr [adult] [.present "beta", .test "plan" .regex (.text "a")] [])
  have fourth : UnwrapsWithin tidied
      (.and [country, .or [adult, .present "beta", .test "plan" .regex (.text "a")]]) :=
    .within .here (.onlyOr _)
  have steps : Relation.EqvGen UnwrapsWithin rule tidied :=
    .trans _ _ _ (.rel _ _ first) (.trans _ _ _ (.rel _ _ second)
      (.trans _ _ _ (.rel _ _ third) (.symm _ _ (.rel _ _ fourth))))
  exact ⟨steps, interchangeable_of_unwraps steps⟩

end Condition

end Targeting

import Targeting.Proofs.Composition
import Targeting.Proofs.Reach

/-!
# Evaluation stops where the matter is settled

The names that a conjunction looks up are those of its parts, up to and including the first part
that is no; of a disjunction, up to and including the first that is yes. A part that is unknown
settles nothing, so the parts behind it are looked up as well
(`Condition.reachedUpTo_append_unknown`). What stands behind a part that settles its composite has no
effect, wherever in a condition the composite is (`Condition.evaluate_and_of_settled`,
`Condition.evaluate_or_of_settled`, `Condition.evaluate_fill_of_sound`).
-/

set_option autoImplicit false

namespace Targeting

open Evaluation

namespace Condition

section Reached

variable {value : Leaf → Verdict} {settling : Verdict} {before : List Condition} {part : Condition}

/-- An unknown part is gone past: what comes behind it is reached as if it stood alone. -/
theorem reachedUpTo_append_unknown (decided : settling ≠ .unknown)
    (unsettled : ∀ c ∈ before, c.kleene value ≠ settling) (unknown : part.kleene value = .unknown)
    (later : List Condition) :
    reachedUpTo value settling (before ++ part :: later) =
      before.flatMap (reached value) ++ part.reached value ++ reachedUpTo value settling later := by
  have goes : ∀ c ∈ before, (c.kleene value == settling) = false :=
    fun c member => beq_false_of_ne (unsettled c member)
  have open_ : part.kleene value ≠ settling := by
    rw [unknown]
    exact decided.symm
  rw [reachedUpTo_eq, upToFirst_append_of_open goes, List.flatMap_append, ← reachedUpTo_eq,
    reachedUpTo_of_open later open_, List.append_assoc]

end Reached

variable [Engine]

section Settled

variable {look : String → Option Value} {cache : PatternCache} {part : Condition}

/-- **What stands behind a part that is no has no effect.** -/
theorem evaluate_and_of_settled (settled : part.kleene (Leaf.verdict look) = .no)
    (before later later' : List Condition) (sound : cache.Sound) :
    (and (before ++ part :: later)).evaluate look cache =
      (and (before ++ part :: later')).evaluate look cache := by
  have kept := ((and before).evaluate_accounts look cache).sound sound
  have no : (part.evaluate look ((and before).evaluate look cache).cache).result = .no := by
    rw [result_eq_kleene look kept, settled]
  simp only [evaluate_and_append, evaluate_and_cons]
  apply both_congr_right
  rw [both_of_no _ no, both_of_no _ no]

/-- **What stands behind a part that is yes has no effect.** -/
theorem evaluate_or_of_settled (settled : part.kleene (Leaf.verdict look) = .yes)
    (before later later' : List Condition) (sound : cache.Sound) :
    (or (before ++ part :: later)).evaluate look cache =
      (or (before ++ part :: later')).evaluate look cache := by
  have kept := ((or before).evaluate_accounts look cache).sound sound
  have yes : (part.evaluate look ((or before).evaluate look cache).cache).result = .yes := by
    rw [result_eq_kleene look kept, settled]
  simp only [evaluate_or_append, evaluate_or_cons]
  apply either_congr_right
  rw [either_of_yes _ yes, either_of_yes _ yes]

/-- Conditions that do the same on sound caches can stand for one another there. -/
theorem evaluate_fill_of_sound {c d : Condition}
    (same : ∀ cache : PatternCache, cache.Sound → c.evaluate look cache = d.evaluate look cache)
    (k : Context) (sound : cache.Sound) :
    (k.fill c).evaluate look cache = (k.fill d).evaluate look cache :=
  evaluate_fill_congr (fun _ text sound => sound.get text) same k cache sound

end Settled

end Condition

namespace Session

section AnyEngine

variable [Engine]

/-- **Evaluation stops exactly where the matter is settled.** A leaf looks up its name; a negation
what its part does; a conjunction what its parts do up to and including the first that is no, and a
disjunction up to and including the first that is yes. So the names are those of leaves of the
condition, each leaf at most once and from left to right; a part that is unknown never ends the scan;
and wherever a composite stands in a condition, other parts behind one that settles it change neither
the verdict nor what happens, look-ups and log included, nor the pattern cache. Conditions may each
be evaluated at any moment. -/
theorem stops_where_settled (look : String → Option Value)
    (moment : Condition → List Operation) :
    let verdict (c : Condition) := (c.evaluate look (start.after (moment c)).caches.patterns).result
    let names (c : Condition) :=
      lookups (c.evaluate look (start.after (moment c)).caches.patterns).events
    ((∀ l, names (.leaf l) = [l.name]) ∧ (∀ part, names (.not part) = names part) ∧
      (∀ parts, names (.and parts) = (upToFirst (verdict · == .no) parts).flatMap names) ∧
      (∀ parts, names (.or parts) = (upToFirst (verdict · == .yes) parts).flatMap names)) ∧
    (∀ c, (names c).Sublist (c.leaves.map Leaf.name)) ∧
    (∀ (before : List Condition) (part : Condition) (later : List Condition),
      verdict part = .unknown →
      ((∀ c ∈ before, verdict c ≠ .no) →
        names (.and (before ++ part :: later)) =
          before.flatMap names ++ names part ++ names (.and later)) ∧
      ((∀ c ∈ before, verdict c ≠ .yes) →
        names (.or (before ++ part :: later)) =
          before.flatMap names ++ names part ++ names (.or later))) ∧
    (∀ (ops : List Operation) (k : Condition.Context) (before : List Condition) (part : Condition)
      (later later' : List Condition),
      let cache := (start.after ops).caches.patterns
      (verdict part = .no →
        (k.fill (.and (before ++ part :: later))).evaluate look cache =
          (k.fill (.and (before ++ part :: later'))).evaluate look cache) ∧
      (verdict part = .yes →
        (k.fill (.or (before ++ part :: later))).evaluate look cache =
          (k.fill (.or (before ++ part :: later'))).evaluate look cache)) := by
  intro verdict names
  have verdicts : verdict = fun c => c.kleene (Leaf.verdict look) := by
    funext c
    exact Condition.result_eq_kleene look (sound_after _) c
  have reached (c : Condition) : names c = (c.reached (Leaf.verdict look)).map Leaf.name :=
    Condition.lookups_evaluate (sound_after _) look c
  have several (cs : List Condition) :
      cs.flatMap names = (cs.flatMap (Condition.reached (Leaf.verdict look))).map Leaf.name := by
    rw [List.map_flatMap]
    exact congrArg (List.flatMap · cs) (funext reached)
  refine ⟨⟨?_, ?_, ?_, ?_⟩, ?_, ?_, ?_⟩
  · intro l
    rw [reached, Condition.reached, List.map_singleton]
  · intro part
    rw [reached, reached, Condition.reached]
  · intro parts
    rw [reached, Condition.reached, Condition.reachedUpTo_eq, several, verdicts]
  · intro parts
    rw [reached, Condition.reached, Condition.reachedUpTo_eq, several, verdicts]
  · intro c
    rw [reached]
    exact (Condition.reached_sublist c).map Leaf.name
  · intro before part later unknown
    rw [verdicts] at unknown ⊢
    simp only [several, reached, Condition.reached, ← List.map_append]
    constructor
    · intro unsettled
      rw [Condition.reachedUpTo_append_unknown (by decide) unsettled unknown]
    · intro unsettled
      rw [Condition.reachedUpTo_append_unknown (by decide) unsettled unknown]
  · intro ops k before part later later' cache
    rw [verdicts]
    constructor
    · intro no
      exact Condition.evaluate_fill_of_sound
        (fun _ => Condition.evaluate_and_of_settled no before later later') k (sound_after ops)
    · intro yes
      exact Condition.evaluate_fill_of_sound
        (fun _ => Condition.evaluate_or_of_settled yes before later later') k (sound_after ops)

end AnyEngine

/-- A plan is unknown, so the country is looked up as well; it settles the conjunction, so it does
not matter which leaves come behind it, although the conjunction is negated within a disjunction. -/
theorem nothing_behind_settling_country :
    let chrome : Condition := .exact "browser" (.text "chrome")
    let nz : Condition := .exact "country" (.text "NZ")
    let pro : Condition := .exact "plan" (.text "pro")
    let pattern : Condition := .test "build" .regex (.text "b")
    let user : Attributes := Table.empty.insert "browser" (.text "chrome")
      |>.insert "country" (.text "AU") |>.insert "build" (.text "b7")
    let cache := start.caches.patterns
    let cache' := (start.after [.compile "("]).caches.patterns
    let verdict (c : Condition) := (c.evaluate user.find? cache).result
    let names (c : Condition) := lookups (c.evaluate user.find? cache).events
    (verdict pro = .unknown ∧ verdict chrome ≠ .no ∧ verdict nz ≠ .yes ∧
      names (.and [chrome, pro, nz, pattern]) =
        names chrome ++ names pro ++ names (.and [nz, pattern]) ∧
      names (.or [nz, pro, pattern]) = names nz ++ names pro ++ names (.or [pattern])) ∧
    (verdict nz = .no ∧
      (Condition.or [pro, .not (.and [chrome, nz, pattern])]).evaluate user.find? cache' =
        (Condition.or [pro, .not (.and [chrome, nz])]).evaluate user.find? cache') ∧
    verdict chrome = .yes ∧
      (Condition.or [pro, .not (.or [chrome])]).evaluate user.find? cache' =
        (Condition.or [pro, .not (.or [chrome, pattern, nz])]).evaluate user.find? cache' := by
  intro chrome nz pro pattern user cache cache' verdict names
  obtain ⟨-, -, unknown, settled⟩ := stops_where_settled user.find? fun _ => []
  have open_ : verdict pro = .unknown := by
    decide
  have yes : verdict chrome = .yes := by
    decide
  have no : verdict nz = .no := by
    decide
  have goes : verdict chrome ≠ .no := by
    rw [yes]
    decide
  have goes' : verdict nz ≠ .yes := by
    rw [no]
    decide
  let within : Condition.Context := .or [pro] (.not .here) []
  refine ⟨⟨open_, goes, goes', ?_, ?_⟩, ⟨no, ?_⟩, yes, ?_⟩
  · exact (unknown [chrome] pro [nz, pattern] open_).1 (List.forall_mem_singleton.2 goes)
  · exact (unknown [nz] pro [pattern] open_).2 (List.forall_mem_singleton.2 goes')
  · exact (settled [.compile "("] within [chrome] nz [pattern] []).1 no
  · exact (settled [.compile "("] within [] chrome [] [pattern, nz]).2 yes

end Session

end Targeting

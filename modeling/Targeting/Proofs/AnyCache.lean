import Targeting.Proofs.Kleene

/-!
# Verdicts on any cache

Whatever a pattern cache holds, a request does not change what it answers later, the serial numbers
of compiled patterns apart (`PatternCache.AnswersLike.get`). So a leaf has the same verdict however
much was asked for since, and the verdict of a condition comes from the verdicts that its leaves
have on the cache that evaluation starts from, also where that cache holds something else than
compiling gives (`Condition.result_eq_kleene_of_leaves`).
-/

set_option autoImplicit false

namespace Targeting

variable [Engine]

namespace PatternCache

/-- For every text the two caches answer with the same pattern or the same refusal. -/
def AnswersLike (cache base : PatternCache) : Prop :=
  ∀ text, (cache.get text).result.map Regex.compiled = (base.get text).result.map Regex.compiled

theorem AnswersLike.refl (cache : PatternCache) : cache.AnswersLike cache :=
  fun _ => rfl

/-- Asking for one text leaves the answer for every text as it was. -/
theorem compiled_get_get (cache : PatternCache) (asked text : String) :
    ((cache.get asked).cache.get text).result.map Regex.compiled =
      (cache.get text).result.map Regex.compiled := by
  rw [result_get, result_get, holding, find?_get]
  by_cases same : text = asked
  · rw [if_pos same, Option.getD_some, same]
  · rw [if_neg same, holding]
    cases cache.table.find? text with
    | some held => rfl
    | none => rw [Option.getD_none, Option.getD_none, answer_fresh, answer_fresh]

theorem AnswersLike.get {cache base : PatternCache} (like : cache.AnswersLike base)
    (asked : String) : (cache.get asked).cache.AnswersLike base := by
  intro text
  rw [compiled_get_get]
  exact like text

end PatternCache

namespace Leaf

variable {cache base : PatternCache}

theorem result_compare_like (like : cache.AnswersLike base) (l : Leaf) (actual : Value) :
    (l.compare actual cache).result = (l.compare actual base).result := by
  unfold compare
  cases l.operator with
  | substring => cases actual.asText? <;> cases l.value.asText? <;> rfl
  | regex =>
    cases actual.asText? with
    | none => rfl
    | some a =>
      cases l.value.asText? with
      | none => rfl
      | some e =>
        have answers := like e
        dsimp only
        rw [Outcome.map_result, Outcome.map_result]
        cases asked : (cache.get e).result with
        | error _ =>
          cases asked' : (base.get e).result with
          | error _ => rfl
          | ok _ => simp [asked, asked', Except.map] at answers
        | ok r =>
          cases asked' : (base.get e).result with
          | error _ => simp [asked, asked', Except.map] at answers
          | ok r' =>
            simp only [asked, asked', Except.map, Except.ok.injEq] at answers
            have pattern : r.pattern = r'.pattern := congrArg Compiled.pattern answers
            simp only [Except.toOption, Option.map_some, Regex.occursIn, pattern]
  | _ => rfl

/-- On caches that answer alike a leaf has the same verdict. -/
theorem result_evaluate_like (like : cache.AnswersLike base) (look : String → Option Value)
    (l : Leaf) : (l.evaluate look cache).result = (l.evaluate look base).result := by
  unfold evaluate
  by_cases test : l.operator = .present
  · simp only [test, if_true]
  · simp only [test, if_false]
    cases known look l.name with
    | none => rfl
    | some actual =>
      have compared := result_compare_like like l actual
      dsimp only
      rw [compared]
      cases (l.compare actual base).result <;> rfl

end Leaf

namespace Condition

/-- **On every cache the verdict comes from the verdicts of all leaves on that cache.** -/
theorem result_eq_kleene_of_leaves (look : String → Option Value) (cache : PatternCache)
    (c : Condition) :
    (c.evaluate look cache).result = c.kleene fun l => (l.evaluate look cache).result := by
  have steady : Steady look (·.AnswersLike cache) fun l => (l.evaluate look cache).result := by
    constructor
    · exact fun _ text like => like.get text
    · exact fun l _ like => l.result_evaluate_like like look
  rw [steady.result_evaluate (.refl cache), verdict_eq_kleene]

end Condition

end Targeting

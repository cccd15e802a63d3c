import Targeting.Proofs.Compilation

/-!
# Evaluation and validation without caches

The same rules with nothing kept: every pattern is compiled where it is needed. On a sound cache,
evaluation and validation give what they give without one (`Condition.result_evaluate`,
`Condition.result_validate`), although evaluation fills the cache between one leaf and the next: as
long as requests do not change what leaves say, the parts of a condition may be evaluated on any of
the caches in between (`Condition.Steady`).
-/

set_option autoImplicit false

namespace Targeting

theorem Verdict.ofBool_ne_unknown (b : Bool) : ofBool b ≠ .unknown := by
  cases b <;> nofun

variable [Engine]

namespace Leaf

/-- The answer of a leaf for an attribute that is there, its pattern compiled afresh. -/
def compareAfresh (l : Leaf) (actual : Value) : Option Bool :=
  match l.operator with
  | .present => some true
  | .exact => equal? actual l.value
  | .substring =>
    match actual.asText?, l.value.asText? with
    | some a, some e => some (occursWithin e.toList a.toList)
    | _, _ => none
  | .regex =>
    match actual.asText?, l.value.asText? with
    | some a, some e => (compileAfresh e).toOption.map fun c => Engine.occursIn c.pattern a
    | _, _ => none
  | op => (compare? actual l.value).map op.ofOrdering

/-- What a leaf says of a source, without a cache. -/
def verdict (look : String → Option Value) (l : Leaf) : Verdict :=
  match l.operator, known look l.name with
  | .present, actual? => .ofBool actual?.isSome
  | _, none => .unknown
  | _, some actual =>
    match l.compareAfresh actual with
    | some b => .ofBool b
    | none => .unknown

/-- What validation finds at a leaf, without a cache. -/
def check (l : Leaf) : Except Violation Unit :=
  match l.flaw? with
  | some flaw => .error (.flawed l flaw)
  | none =>
    match l.pattern? with
    | none => .ok ()
    | some pattern =>
      match compileAfresh pattern with
      | .ok _ => .ok ()
      | .error e => .error (.badPattern e)

variable {cache : PatternCache}

theorem result_compare (sound : cache.Sound) (l : Leaf) (actual : Value) :
    (l.compare actual cache).result = l.compareAfresh actual := by
  unfold compare compareAfresh
  cases l.operator with
  | substring => cases actual.asText? <;> cases l.value.asText? <;> rfl
  | regex =>
    cases actual.asText? with
    | none => rfl
    | some a =>
      cases l.value.asText? with
      | none => rfl
      | some e =>
        dsimp only
        rw [← sound.compiled_get e, Outcome.map_result]
        cases (cache.get e).result <;> rfl
  | _ => rfl

theorem result_evaluate (sound : cache.Sound) (look : String → Option Value) (l : Leaf) :
    (l.evaluate look cache).result = l.verdict look := by
  unfold evaluate verdict
  cases test : l.operator with
  | present => rfl
  | _ =>
    simp only [reduceCtorEq, if_false]
    cases known look l.name with
    | none => rfl
    | some actual =>
      dsimp only
      rw [result_compare sound]
      cases l.compareAfresh actual <;> rfl

/-- A leaf is unknown where nothing is known under its name, or nothing that it can compare. -/
theorem verdict_eq_unknown_iff (look : String → Option Value) (l : Leaf) :
    l.verdict look = .unknown ↔
      l.operator ≠ .present ∧
        ∀ actual, known look l.name = some actual → l.compareAfresh actual = none := by
  unfold verdict
  cases l.operator with
  | present => simp [Verdict.ofBool_ne_unknown]
  | _ =>
    cases known look l.name with
    | none => simp
    | some actual =>
      cases compared : l.compareAfresh actual <;> simp [compared, Verdict.ofBool_ne_unknown]

theorem result_validate (sound : cache.Sound) (l : Leaf) :
    (l.validate cache).result = l.check := by
  unfold validate check
  cases l.flaw? with
  | some flaw => rfl
  | none =>
    cases l.pattern? with
    | none => rfl
    | some pattern =>
      dsimp only
      rw [← sound.compiled_get pattern, Outcome.map_result]
      cases (cache.get pattern).result <;> rfl

end Leaf

namespace Condition

section Verdict

variable (value : Leaf → Verdict)

mutual

/-- What a condition says, from what its leaves say: the parts in order, no further than the first
that settles the matter. -/
def verdict : Condition → Verdict
  | and parts => verdictAll false parts
  | or parts => verdictAny false parts
  | not part => (verdict part).not
  | leaf l => value l

/-- The parts of a conjunction up to the first that is `no`. -/
def verdictAll (unsure : Bool) : List Condition → Verdict
  | [] => if unsure then .unknown else .yes
  | part :: parts =>
    match verdict part with
    | .no => .no
    | .unknown => verdictAll true parts
    | .yes => verdictAll unsure parts

/-- The parts of a disjunction up to the first that is `yes`. -/
def verdictAny (unsure : Bool) : List Condition → Verdict
  | [] => if unsure then .unknown else .no
  | part :: parts =>
    match verdict part with
    | .yes => .yes
    | .unknown => verdictAny true parts
    | .no => verdictAny unsure parts

end

end Verdict

mutual

/-- What validation finds in a condition, without a cache. -/
def check : Condition → Except Violation Unit
  | and parts => checkAll parts
  | or parts => checkAll parts
  | not part => check part
  | leaf l => l.check

/-- What validation finds in several parts: the first violation. -/
def checkAll : List Condition → Except Violation Unit
  | [] => .ok ()
  | part :: parts =>
    match check part with
    | .error v => .error v
    | .ok _ => checkAll parts

end

/-- On a source, every leaf has the same verdict on all caches with a property that requests keep. -/
structure Steady (look : String → Option Value) (P : PatternCache → Prop) (value : Leaf → Verdict) :
    Prop where
  kept : ∀ cache text, P cache → P (cache.get text).cache
  leaves : ∀ (l : Leaf) cache, P cache → (l.evaluate look cache).result = value l

namespace Steady

variable {look : String → Option Value} {P : PatternCache → Prop} {value : Leaf → Verdict}
  (steady : Steady look P value)

include steady

-- The three loops go together: each carries what is known of the cache from part to part.
mutual

/-- **The verdict comes from the verdicts of the leaves**, where these do not depend on the cache. -/
theorem result_evaluate {cache : PatternCache} (holds : P cache) : (c : Condition) →
    (c.evaluate look cache).result = c.verdict value
  | and parts => by
    simpa only [evaluate, verdict] using result_evaluateAll holds false parts
  | or parts => by
    simpa only [evaluate, verdict] using result_evaluateAny holds false parts
  | not part => by
    simp only [evaluate, verdict, Outcome.map_result, result_evaluate holds part]
  | leaf l => by
    simpa only [evaluate, verdict] using steady.leaves l cache holds

theorem result_evaluateAll {cache : PatternCache} (holds : P cache) (unsure : Bool) :
    (parts : List Condition) →
      (evaluateAll look unsure parts cache).result = verdictAll value unsure parts
  | [] => by simp only [evaluateAll, verdictAll]
  | part :: parts => by
    have first := result_evaluate holds part
    have holds' := (evaluate_accounts look part cache).keeps steady.kept holds
    simp only [evaluateAll, verdictAll, ← first]
    cases settled : (evaluate look part cache).result with
    | no => exact settled
    | unknown => exact result_evaluateAll holds' true parts
    | yes => exact result_evaluateAll holds' unsure parts

theorem result_evaluateAny {cache : PatternCache} (holds : P cache) (unsure : Bool) :
    (parts : List Condition) →
      (evaluateAny look unsure parts cache).result = verdictAny value unsure parts
  | [] => by simp only [evaluateAny, verdictAny]
  | part :: parts => by
    have first := result_evaluate holds part
    have holds' := (evaluate_accounts look part cache).keeps steady.kept holds
    simp only [evaluateAny, verdictAny, ← first]
    cases settled : (evaluate look part cache).result with
    | yes => exact settled
    | unknown => exact result_evaluateAny holds' true parts
    | no => exact result_evaluateAny holds' unsure parts

end

end Steady

/-- **Evaluation does not depend on the cache**, as long as it is sound. -/
theorem result_evaluate (look : String → Option Value) {cache : PatternCache} (sound : cache.Sound)
    (c : Condition) : (c.evaluate look cache).result = c.verdict (Leaf.verdict look) :=
  Steady.result_evaluate (P := PatternCache.Sound)
    ⟨fun _ text sound => sound.get text, fun l _ sound => l.result_evaluate sound look⟩ sound c

mutual

/-- **Validation does not depend on the cache**, as long as it is sound. -/
theorem result_validate {cache : PatternCache} (sound : cache.Sound) : (c : Condition) →
    (c.validate cache).result = c.check
  | and parts => by simpa only [validate, check] using result_validateAll sound parts
  | or parts => by simpa only [validate, check] using result_validateAll sound parts
  | not part => by simpa only [validate, check] using result_validate sound part
  | leaf l => by simpa only [validate, check] using l.result_validate sound

theorem result_validateAll {cache : PatternCache} (sound : cache.Sound) :
    (parts : List Condition) → (validateAll parts cache).result = checkAll parts
  | [] => by simp only [validateAll, checkAll]
  | part :: parts => by
    have first := result_validate sound part
    have kept := (validate_accounts part cache).sound sound
    simp only [validateAll, checkAll, ← first]
    cases settled : (validate part cache).result with
    | error v => exact settled
    | ok _ => exact result_validateAll kept parts

end

end Condition

end Targeting

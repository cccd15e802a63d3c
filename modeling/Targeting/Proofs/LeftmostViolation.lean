import Targeting.Proofs.Accounting
import Targeting.Proofs.Composition
import Targeting.Proofs.SharedPatterns

/-!
# Validation reports the leftmost violation

Validation goes through the leaves of a condition from left to right, whatever the composites around
them, and what it finds is what it finds at the first leaf that fails (`Condition.check_eq`): one of
its flaws (`Leaf.Flawed`), or that its pattern is none. The leaves up to there are asked for their
patterns, if they have names, and no others are (`Condition.mem_checks_iff`); what the pattern cache
held it still holds.
-/

set_option autoImplicit false

namespace Targeting

namespace Leaf

/-- The flaws of a leaf. A blank name comes before anything that is wrong with the value, and a leaf
that asks for presence takes every value. -/
def Flawed (l : Leaf) : Flaw → Prop
  | .blankName => Text.trim l.name = ""
  | .nullValue => Text.trim l.name ≠ "" ∧ l.operator ≠ .present ∧ l.value = .null
  | .notFinite =>
    Text.trim l.name ≠ "" ∧ (l.operator = .exact ∨ l.operator.isNumeric = true) ∧
      ∃ x, l.value = .number x ∧ x.isFinite = false
  | .needsNumber =>
    Text.trim l.name ≠ "" ∧ l.operator.isNumeric = true ∧
      ((∃ b, l.value = .flag b) ∨ ∃ s, l.value = .text s)
  | .needsText =>
    Text.trim l.name ≠ "" ∧ (l.operator = .substring ∨ l.operator = .regex) ∧
      ((∃ b, l.value = .flag b) ∨ ∃ x, l.value = .number x)

theorem flaw?_eq_some_iff (l : Leaf) (flaw : Flaw) : l.flaw? = some flaw ↔ l.Flawed flaw := by
  obtain ⟨name, operator, value⟩ := l
  have named : Text.trim name = "" ↔ Text.isBlank name = true := Text.trim_eq_empty_iff name
  unfold flaw?
  cases blank : Text.isBlank name with
  | true => cases flaw <;> simp [Flawed, named, blank]
  | false =>
    cases value with
    | number x =>
      cases finite : x.isFinite <;> cases operator <;> cases flaw <;>
        simp [Flawed, named, blank, Binary64.flaw?, finite, Operator.isNumeric]
    | _ => cases operator <;> cases flaw <;> simp [Flawed, named, blank, Operator.isNumeric]

theorem pattern?_eq_some_iff (l : Leaf) (pattern : String) :
    l.pattern? = some pattern ↔ l.operator = .regex ∧ l.value = .text pattern := by
  unfold pattern?
  cases l.operator <;> cases l.value <;> simp [Value.asText?]

/-- Validation asks a leaf with a name for the pattern that it looks for. -/
theorem checks?_eq_some_iff (l : Leaf) (pattern : String) :
    l.checks? = some pattern ↔
      Text.trim l.name ≠ "" ∧ l.operator = .regex ∧ l.value = .text pattern := by
  rw [checks?, ne_eq, Text.trim_eq_empty_iff, ← pattern?_eq_some_iff]
  cases Text.isBlank l.name <;> simp

variable [Engine]

/-- What validation finds at a leaf names the leaf and its flaw, or the pattern that is none. The
pattern of a leaf with a flaw is not looked at. -/
theorem exists_of_check_eq_error {l : Leaf} {v : Violation} (fails : l.check = .error v) :
    (∃ flaw, l.Flawed flaw ∧ v = .flawed l flaw) ∨
      ∃ e, (∀ flaw, ¬l.Flawed flaw) ∧ l.pattern? = some e.pattern ∧
        compileAfresh e.pattern = .error e ∧ v = .badPattern e := by
  unfold check at fails
  cases flawed : l.flaw? with
  | some flaw =>
    rw [flawed] at fails
    cases fails
    exact .inl ⟨flaw, (flaw?_eq_some_iff l flaw).1 flawed, rfl⟩
  | none =>
    rw [flawed] at fails
    cases looks : l.pattern? with
    | none =>
      rw [looks] at fails
      cases fails
    | some pattern =>
      rw [looks] at fails
      cases compiled : compileAfresh pattern with
      | ok c =>
        simp only [compiled] at fails
        cases fails
      | error e =>
        simp only [compiled] at fails
        cases fails
        have same : e.pattern = pattern := pattern_of_refused compiled
        refine .inr ⟨e, fun flaw has => ?_, ?_, ?_, rfl⟩
        · rw [(flaw?_eq_some_iff l flaw).2 has] at flawed
          cases flawed
        · rw [same]
        · rw [same, compiled]

end Leaf

namespace Condition

variable [Engine]

/-- A condition is checked as its leaves are. -/
theorem check_eq_checkAll_leaves (c : Condition) : c.check = checkAll (c.leaves.map leaf) := by
  have sound := PatternCache.sound_empty
  rw [← result_validate sound, validate_eq_validateAll_leaves, result_validateAll sound]

theorem checkAll_leaves (ls : List Leaf) :
    checkAll (ls.map leaf) =
      match ls.find? fun l => l.check ≠ .ok () with
      | none => .ok ()
      | some l => l.check := by
  induction ls with
  | nil => rfl
  | cons l ls ih =>
    rw [List.map_cons, checkAll, check, ih, List.find?_cons]
    cases checked : l.check with
    | error v => simp [checked]
    | ok _ => simp

/-- **What validation finds is what it finds at the first leaf that fails.** -/
theorem check_eq (c : Condition) :
    c.check =
      match c.leaves.find? fun l => l.check ≠ .ok () with
      | none => .ok ()
      | some l => l.check := by
  rw [check_eq_checkAll_leaves, checkAll_leaves]

/-- The patterns that validation asks for are those of named leaves that look for one, up to and
including the first leaf that fails. -/
theorem mem_checks_iff (c : Condition) (pattern : String) :
    pattern ∈ c.checks ↔ ∃ l ∈ upToFirst (fun l => l.check ≠ .ok ()) c.leaves,
      Text.trim l.name ≠ "" ∧ l.operator = .regex ∧ l.value = .text pattern := by
  simp only [checks, List.mem_filterMap, Leaf.upToFailing_eq, Leaf.checks?_eq_some_iff]

end Condition

namespace Session

section AnyEngine

variable [Engine]

/-- **Validation reports the leftmost violation and nothing past it.** Whatever a session did before,
validating a condition finds what is found at the first of its leaves that fails, and nothing if none
does. What is found at a leaf names the leaf and its flaw, or for a leaf without a flaw its pattern,
which is none. What the pattern cache held it still holds; beyond that it holds, compiled or refused
as they are afresh, the patterns of the named leaves up to there that look for one, and no others.
The shared conditions stay as they are. Leaves may be validated on their own at any moment. -/
theorem leftmost_violation (before : List Operation) (moment : Leaf → List Operation)
    (c : Condition) :
    let s := start.after before
    let s' := (s.step (.validate c)).2.1
    let found (l : Leaf) := (l.validate (start.after (moment l)).caches.patterns).result
    (s.step (.validate c)).1 = .validated
      (match c.leaves.find? fun l => found l ≠ .ok () with
        | none => .ok ()
        | some l => found l) ∧
    (∀ l v, found l = .error v →
      (∃ flaw, l.Flawed flaw ∧ v = .flawed l flaw ∧
        v.message = "Invalid condition: " ++ l.display ++ ": " ++ flaw.text) ∨
      (∃ e, (∀ flaw, ¬l.Flawed flaw) ∧ l.operator = .regex ∧ l.value = .text e.pattern ∧
        compileAfresh e.pattern = .error e ∧ v = .badPattern e)) ∧
    (∀ p held, s.caches.patterns.table.find? p = some held →
      s'.caches.patterns.table.find? p = some held) ∧
    (∀ p, (s'.caches.patterns.table.find? p).isSome = true ↔
      (s.caches.patterns.table.find? p).isSome = true ∨
        ∃ l ∈ upToFirst (fun l => found l ≠ .ok ()) c.leaves,
          Text.trim l.name ≠ "" ∧ l.operator = .regex ∧ l.value = .text p) ∧
    s'.caches.patterns.Sound ∧
    s'.caches.conditions = s.caches.conditions := by
  intro s s' found
  have sound : s.caches.patterns.Sound := sound_after before
  have checked : found = Leaf.check := by
    funext l
    exact l.result_validate (sound_after _)
  rw [checked]
  refine ⟨?_, ?_, ?_, ?_, sound_step s _ sound, step_conditions s _⟩
  · rw [← Condition.check_eq, ← Condition.result_validate sound]
    rfl
  · intro l v fails
    rcases Leaf.exists_of_check_eq_error fails with ⟨flaw, flawed, rfl⟩ |
      ⟨e, sound, looks, refused, rfl⟩
    · exact .inl ⟨flaw, flawed, rfl, rfl⟩
    · obtain ⟨test, value⟩ := (Leaf.pattern?_eq_some_iff l e.pattern).1 looks
      exact .inr ⟨e, sound, test, value, refused, rfl⟩
  · intro p held bound
    have quiet : .clear ∉ [Operation.validate c] := by simp
    exact find?_after_of_found bound quiet
  · intro p
    rw [isSome_find?_step sound, or_comm, ← Condition.mem_checks_iff]
    exact and_iff_right nofun

end AnyEngine

/-- The leaf without a name is the first that fails, under a negation within a disjunction. The
pattern before it is compiled, the broken one behind it is not looked at. -/
theorem nameless_leaf_found :
    let version : Leaf := ⟨"version", .regex, .text "a"⟩
    let nameless : Leaf := ⟨" ", .regex, .text "b"⟩
    let broken : Leaf := ⟨"build", .regex, .text "("⟩
    let rule : Condition :=
      .or [.present "beta", .not (.and [.leaf version, .leaf nameless]), .leaf broken]
    let s := start.after [.compile "z"]
    let s' := (s.step (.validate rule)).2.1
    let found (l : Leaf) := (l.validate start.caches.patterns).result
    (s.step (.validate rule)).1 = .validated (found nameless) ∧
    (found nameless = .error (.flawed nameless .blankName) ∧
      (Violation.flawed nameless .blankName).message =
        "Invalid condition: " ++ nameless.display ++ ": " ++ Flaw.blankName.text) ∧
    (∃ held, s.caches.patterns.table.find? "z" = some held ∧
      s'.caches.patterns.table.find? "z" = some held) ∧
    (s'.caches.patterns.table.find? "a").isSome = true ∧
    (s'.caches.patterns.table.find? "(").isSome = false := by
  intro version nameless broken rule s s' found
  obtain ⟨answer, shape, kept, asked, -⟩ :=
    leftmost_violation [.compile "z"] (fun _ => []) rule
  have first : rule.leaves.find? (fun l => found l ≠ .ok ()) = some nameless := by
    decide
  have gone : upToFirst (fun l => found l ≠ .ok ()) rule.leaves =
      [⟨"beta", .present, .null⟩, version, nameless] := by
    decide
  have fails : found nameless = .error (.flawed nameless .blankName) := by
    decide
  have through (p : String) : (s'.caches.patterns.table.find? p).isSome = true ↔
      (s.caches.patterns.table.find? p).isSome = true ∨
        ∃ l ∈ [⟨"beta", .present, .null⟩, version, nameless],
          Text.trim l.name ≠ "" ∧ l.operator = .regex ∧ l.value = .text p := by
    rw [← gone]
    exact asked p
  obtain ⟨held, bound⟩ : ∃ held, s.caches.patterns.table.find? "z" = some held :=
    Option.isSome_iff_exists.1 (by decide)
  refine ⟨?_, ⟨fails, ?_⟩, ⟨held, bound, kept "z" held bound⟩, ?_, ?_⟩
  · rw [answer]
    change Answer.validated (match rule.leaves.find? (fun l => found l ≠ .ok ()) with
      | none => .ok ()
      | some l => found l) = _
    rw [first]
  · rcases shape nameless _ fails with ⟨flaw, -, same, message⟩ | ⟨e, -, -, -, -, same⟩
    · cases same
      exact message
    · cases same
  · exact (through "a").2 (.inr ⟨version, by simp, by decide, rfl, rfl⟩)
  · rw [← Bool.not_eq_true, through]
    rintro (older | ⟨l, member, -, -, value⟩)
    · exact absurd older (by decide)
    · simp only [List.mem_cons, List.not_mem_nil, or_false] at member
      rcases member with rfl | rfl | rfl <;> simp [version, nameless] at value

end Session

end Targeting

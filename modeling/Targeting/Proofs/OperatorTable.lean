import Targeting.Proofs.ExactOrder
import Targeting.Proofs.Learning
import Targeting.Proofs.Validity

/-!
# The table of operators

For each operator, which pairs of values it can compare (`Operator.Incomparable`) and of which of
them it holds (`Operator.Holds`), said without the functions that decide it: a text contains another
if it is that text with something before and behind it, and numbers are related by their exact
values. A leaf answers as the table says (`Leaf.follows_operator_table`): no search misses an
occurrence, and no order of the checks shows in the answer.
-/

set_option autoImplicit false

namespace Targeting

/-- One text occurs in another exactly if it is a contiguous part of it. -/
theorem occursWithin_iff (part cs : List Char) : occursWithin part cs = true ↔ part <:+: cs := by
  induction cs with
  | nil => simp [occursWithin]
  | cons c cs ih =>
    rw [occursWithin, Bool.or_eq_true, List.isPrefixOf_iff_prefix, ih, List.infix_cons_iff]

theorem occursWithin_toList_iff (part text : String) :
    occursWithin part.toList text.toList = true ↔
      ∃ before behind, text = before ++ part ++ behind := by
  rw [occursWithin_iff]
  constructor
  · rintro ⟨before, behind, whole⟩
    refine ⟨.ofList before, .ofList behind, ?_⟩
    apply String.toList_inj.1
    simp [← whole]
  · rintro ⟨before, behind, rfl⟩
    exact ⟨before.toList, behind.toList, by simp⟩

/-- Nothing is known under a name: nothing is there, or null. -/
def Missing (look : String → Option Value) (name : String) : Prop :=
  look name = none ∨ look name = some .null

theorem missing_iff (look : String → Option Value) (name : String) :
    Missing look name ↔ known look name = none :=
  (known_eq_none_iff look name).symm

theorem known_eq_some_iff (look : String → Option Value) (name : String) (v : Value) :
    known look name = some v ↔ look name = some v ∧ ¬Missing look name := by
  rw [known, Option.filter_eq_some_iff, Missing]
  apply and_congr_right
  intro found
  cases v <;> simp [found, Value.isNull]

namespace Operator

/-- The values are of the types that the operator takes. -/
inductive Accepts : Operator → Value → Value → Prop
  | texts (a e : String) : Accepts .exact (.text a) (.text e)
  | flags (a e : Bool) : Accepts .exact (.flag a) (.flag e)
  | numbers (x y : Binary64) : Accepts .exact (.number x) (.number y)
  | substring (a e : String) : Accepts .substring (.text a) (.text e)
  | regex (a e : String) : Accepts .regex (.text a) (.text e)
  | ordered {o : Operator} (numeric : o.isNumeric = true) (x y : Binary64) :
    Accepts o (.number x) (.number y)

variable [Engine]

/-- Why an operator cannot compare an attribute with an expected value. -/
inductive Incomparable (o : Operator) : Value → Value → Prop
  /-- The values are not of the types that the operator takes. -/
  | types {actual expected : Value} (refused : ¬o.Accepts actual expected) :
    Incomparable o actual expected
  /-- One of two numbers is a NaN or infinite. -/
  | infinite {x y : Binary64} (infinite : x.isFinite = false ∨ y.isFinite = false) :
    Incomparable o (.number x) (.number y)
  /-- The pattern does not compile. -/
  | pattern {a e : String} (regex : o = .regex) (broken : ∀ p, Engine.compile e ≠ .ok p) :
    Incomparable o (.text a) (.text e)

/-- No operator takes null. -/
theorem Incomparable.null (o : Operator) (expected : Value) : o.Incomparable .null expected :=
  .types nofun

/-- An operator holds of an attribute and an expected value. -/
inductive Holds : Operator → Value → Value → Prop
  | texts (s : String) : Holds .exact (.text s) (.text s)
  | flags (b : Bool) : Holds .exact (.flag b) (.flag b)
  | numbers {o : Operator} {x y : Binary64} (related : o.Relates x.toRat y.toRat) :
    Holds o (.number x) (.number y)
  | occurs (before part behind : String) :
    Holds .substring (.text (before ++ part ++ behind)) (.text part)
  | found {a e : String} {p : Engine.Program} (compiled : Engine.compile e = .ok p)
    (occurs : Engine.occursIn p a = true) : Holds .regex (.text a) (.text e)

/-- The answer that the table has for an operator and two values. -/
structure Tells (o : Operator) (actual expected : Value) (answer : Option Bool) : Prop where
  none_iff : answer = none ↔ o.Incomparable actual expected
  true_iff : answer = some true ↔ ¬o.Incomparable actual expected ∧ o.Holds actual expected

namespace Tells

variable {o : Operator} {actual expected : Value}

theorem nothing (incomparable : o.Incomparable actual expected) : o.Tells actual expected none where
  none_iff := ⟨fun _ => incomparable, fun _ => rfl⟩
  true_iff := ⟨nofun, fun ⟨comparable, _⟩ => absurd incomparable comparable⟩

theorem answer {b : Bool} (comparable : ¬o.Incomparable actual expected)
    (holds : b = true ↔ o.Holds actual expected) : o.Tells actual expected (some b) where
  none_iff := ⟨nofun, fun incomparable => absurd incomparable comparable⟩
  true_iff := by rw [Option.some.injEq, holds, and_iff_right comparable]

theorem refused (refused : ¬o.Accepts actual expected) : o.Tells actual expected none :=
  nothing (.types refused)

/-- Texts are comparable where the operator takes them, unless one is to be a pattern. -/
theorem comparable_texts {a e : String} (accepts : o.Accepts (.text a) (.text e))
    (plain : o ≠ .regex) : ¬o.Incomparable (.text a) (.text e) := by
  intro incomparable
  cases incomparable with
  | types refused => exact refused accepts
  | pattern regex => exact plain regex

theorem texts (a e : String) : exact.Tells (.text a) (.text e) (some (a == e)) := by
  apply answer (comparable_texts (.texts a e) nofun)
  rw [beq_iff_eq]
  constructor
  · rintro rfl
    exact .texts a
  · intro holds
    cases holds
    rfl

theorem flags (a e : Bool) : exact.Tells (.flag a) (.flag e) (some (a == e)) := by
  apply answer
  · intro incomparable
    cases incomparable with
    | types refused => exact refused (.flags a e)
  · rw [beq_iff_eq]
    constructor
    · rintro rfl
      exact .flags a
    · intro holds
      cases holds
      rfl

theorem numbers {o : Operator} (accepts : ∀ x y, o.Accepts (.number x) (.number y))
    (x y : Binary64) : o.Tells (.number x) (.number y)
      (x.value?.bind fun a => y.value?.map fun e => decide (o.Relates a e)) := by
  by_cases infinite : x.isFinite = false ∨ y.isFinite = false
  · rw [Binary64.asked_of_infinite infinite]
    exact nothing (.infinite infinite)
  · have finite : x.isFinite = true ∧ y.isFinite = true := by simpa using infinite
    rw [Binary64.asked_of_finite finite.1 finite.2]
    apply answer
    · intro incomparable
      cases incomparable with
      | types refused => exact refused (accepts x y)
      | infinite impossible => exact infinite impossible
    · rw [decide_eq_true_iff]
      constructor
      · exact .numbers
      · intro holds
        cases holds with
        | numbers related => exact related

theorem substring (a e : String) :
    Operator.substring.Tells (.text a) (.text e) (some (occursWithin e.toList a.toList)) := by
  apply answer (comparable_texts (.substring a e) nofun)
  rw [occursWithin_toList_iff]
  constructor
  · rintro ⟨before, behind, rfl⟩
    exact .occurs before e behind
  · intro holds
    cases holds with
    | occurs before _ behind => exact ⟨before, behind, rfl⟩

theorem regex (a e : String) : Operator.regex.Tells (.text a) (.text e)
    ((compileAfresh e).toOption.map fun c => Engine.occursIn c.pattern a) := by
  cases compiled : Engine.compile e with
  | error _ =>
    have broken : ∀ p, Engine.compile e ≠ .ok p := by simp [compiled]
    simp only [compileAfresh, compiled]
    exact nothing (.pattern rfl broken)
  | ok p =>
    simp only [compileAfresh, compiled]
    apply answer
    · intro incomparable
      cases incomparable with
      | types refused => exact refused (.regex a e)
      | pattern _ broken => exact broken p compiled
    · constructor
      · exact .found compiled
      · intro holds
        cases holds with
        | found compiled' occurs =>
          rw [compiled] at compiled'
          cases compiled'
          exact occurs

/-- Values that can be compared get an answer. -/
theorem exists_answer {answer : Option Bool} (tells : o.Tells actual expected answer)
    (comparable : ¬o.Incomparable actual expected) :
    ∃ b, answer = some b ∧ (b = true ↔ o.Holds actual expected) := by
  cases answer with
  | none => exact absurd (tells.none_iff.1 rfl) comparable
  | some b =>
    have holds := tells.true_iff
    rw [Option.some.injEq, and_iff_right comparable] at holds
    exact ⟨b, rfl, holds⟩

end Tells

end Operator

namespace Leaf

section AnyEngine

variable [Engine]

theorem compareAfresh_numbers {l : Leaf} {y : Binary64}
    (compares : l.operator.comparesNumbers = true) (expected : l.value = .number y)
    (x : Binary64) : l.compareAfresh (.number x) =
      x.value?.bind fun a => y.value?.map fun e => decide (l.operator.Relates a e) := by
  rw [← result_compare PatternCache.sound_empty, result_compare_numbers compares expected]

/-- The answer of a leaf for a value that is there is the one of the table. -/
theorem tells_compareAfresh {l : Leaf} (compares : l.operator ≠ .present) (actual : Value) :
    l.operator.Tells actual l.value (l.compareAfresh actual) := by
  obtain ⟨name, operator, expected⟩ := l
  cases operator with
  | present => exact absurd rfl compares
  | exact =>
    cases actual with
    | text a =>
      cases expected with
      | text e => exact .texts a e
      | _ => exact .refused nofun
    | flag a =>
      cases expected with
      | flag e => exact .flags a e
      | _ => exact .refused nofun
    | number x =>
      cases expected with
      | number y =>
        rw [compareAfresh_numbers rfl rfl]
        exact .numbers .numbers x y
      | _ => exact .refused nofun
    | null => exact .refused nofun
  | substring =>
    cases actual with
    | text a =>
      cases expected with
      | text e => exact .substring a e
      | _ => exact .refused nofun
    | _ => exact .refused nofun
  | regex =>
    cases actual with
    | text a =>
      cases expected with
      | text e => exact .regex a e
      | _ => exact .refused nofun
    | _ => exact .refused nofun
  | gt | ge | lt | le =>
    cases actual with
    | number x =>
      cases expected with
      | number y =>
        rw [compareAfresh_numbers rfl rfl]
        exact .numbers (.ordered rfl) x y
      | _ =>
        rw [compareAfresh_of_not_takes rfl]
        exact .refused nofun
    | _ => cases expected <;> exact .refused nofun

/-- A leaf that compares says of a known attribute what comparing answers. -/
theorem verdict_known {look : String → Option Value} {l : Leaf} {actual : Value}
    (compares : l.operator ≠ .present) (found : known look l.name = some actual) :
    l.verdict look = (l.compareAfresh actual).elim .unknown .ofBool := by
  have sound := PatternCache.sound_empty
  rw [← result_evaluate sound, result_evaluate_known compares found, result_compare sound]

/-- A leaf that compares is unknown where nothing is known or what is known cannot be compared. -/
theorem verdict_unknown_iff {look : String → Option Value} {l : Leaf}
    (compares : l.operator ≠ .present) :
    l.verdict look = .unknown ↔ Missing look l.name ∨
      ∃ actual, look l.name = some actual ∧ l.operator.Incomparable actual l.value := by
  have tells := tells_compareAfresh compares
  rw [verdict_eq_unknown_iff, and_iff_right compares]
  constructor
  · intro nothing
    by_cases missing : Missing look l.name
    · exact .inl missing
    · have some : known look l.name ≠ none := mt (missing_iff look l.name).2 missing
      obtain ⟨actual, found⟩ := Option.ne_none_iff_exists'.1 some
      obtain ⟨there, -⟩ := (known_eq_some_iff look l.name actual).1 found
      exact .inr ⟨actual, there, (tells actual).none_iff.1 (nothing actual found)⟩
  · rintro (missing | ⟨actual, there, incomparable⟩) actual' found
    · rw [(missing_iff look l.name).1 missing] at found
      cases found
    · obtain ⟨there', -⟩ := (known_eq_some_iff look l.name actual').1 found
      rw [there] at there'
      cases there'
      exact (tells actual).none_iff.2 incomparable

/-- Where the values can be compared a leaf says whether its operator holds of them. -/
theorem verdict_comparable {look : String → Option Value} {l : Leaf} {actual : Value}
    (compares : l.operator ≠ .present) (there : look l.name = some actual)
    (comparable : ¬l.operator.Incomparable actual l.value) :
    ∃ b, l.verdict look = .ofBool b ∧ (b = true ↔ l.operator.Holds actual l.value) := by
  obtain ⟨b, answered, holds⟩ := (tells_compareAfresh compares actual).exists_answer comparable
  have found : known look l.name = some actual := by
    refine (known_eq_some_iff look l.name actual).2 ⟨there, ?_⟩
    rintro (nothing | null)
    · rw [there] at nothing
      cases nothing
    · rw [there] at null
      cases null
      exact comparable (.null _ _)
  exact ⟨b, by rw [verdict_known compares found, answered]; rfl, holds⟩

/-- **Leaves follow the table of operators.** Whatever a session did before: a leaf that asks for
presence says yes if something is known under its name and no if nothing is, and any other leaf is
unknown exactly if nothing is known, or the values are not of the types that the operator takes, or
one of two numbers is not finite, or the pattern does not compile. If none of that is the case, it
says yes if the operator holds of the two values and no if it does not; so every text contains the
empty one. -/
theorem follows_operator_table (before : List Session.Operation) (look : String → Option Value)
    (l : Leaf) :
    let verdict := (l.evaluate look (Session.start.after before).caches.patterns).result
    (l.operator = .present →
      (verdict = .yes ↔ ¬Missing look l.name) ∧ (verdict = .no ↔ Missing look l.name)) ∧
    (l.operator ≠ .present →
      (verdict = .unknown ↔ Missing look l.name ∨
        ∃ actual, look l.name = some actual ∧ l.operator.Incomparable actual l.value) ∧
      ∀ actual, look l.name = some actual → ¬l.operator.Incomparable actual l.value →
        (verdict = .yes ↔ l.operator.Holds actual l.value) ∧
        (verdict = .no ↔ ¬l.operator.Holds actual l.value)) ∧
    (l.operator = .substring → l.value = .text "" →
      ∀ a, look l.name = some (.text a) → verdict = .yes) := by
  intro verdict
  have result : verdict = l.verdict look := l.result_evaluate (Session.sound_after before) look
  rw [result]
  have compared (compares : l.operator ≠ .present) (actual : Value)
      (there : look l.name = some actual) (comparable : ¬l.operator.Incomparable actual l.value) :
      (l.verdict look = .yes ↔ l.operator.Holds actual l.value) ∧
        (l.verdict look = .no ↔ ¬l.operator.Holds actual l.value) := by
    obtain ⟨b, decided, holds⟩ := verdict_comparable compares there comparable
    rw [decided, ← holds]
    cases b <;> simp [Verdict.ofBool]
  refine ⟨?_, fun compares => ⟨verdict_unknown_iff compares, compared compares⟩, ?_⟩
  · intro present
    rw [verdict_present present, missing_iff]
    cases known look l.name <;> simp [Verdict.ofBool]
  · intro substring expected a there
    have comparable : ¬l.operator.Incomparable (.text a) l.value := by
      rw [substring, expected]
      exact Operator.Tells.comparable_texts (.substring a "") (by decide)
    have holds : l.operator.Holds (.text a) l.value := by
      rw [substring, expected]
      simpa using Operator.Holds.occurs "" "" a
    have compares : l.operator ≠ .present := by
      rw [substring]
      decide
    exact (compared compares _ there comparable).1.2 holds

end AnyEngine

/-- Null counts as nothing, a text is found within another, nothing is found by a pattern that is
none, although it was asked for before, and every text contains the empty one. -/
theorem canada_contains_nad :
    let user (name : String) : Option Value :=
      if name = "country" then some (.text "canada")
      else if name = "plan" then some .null
      else none
    let before : List Session.Operation := [.compile "(", .clear, .compile "("]
    let verdict (l : Leaf) : Verdict :=
      (l.evaluate user (Session.start.after before).caches.patterns).result
    let presence : Leaf := ⟨"plan", .present, .text "pro"⟩
    let part : Leaf := ⟨"country", .substring, .text "nad"⟩
    let broken : Leaf := ⟨"country", .regex, .text "("⟩
    let empty : Leaf := ⟨"country", .substring, .text ""⟩
    (presence.operator = .present ∧ Missing user "plan" ∧ verdict presence = .no) ∧
    (part.operator ≠ .present ∧ user "country" = some (.text "canada") ∧
      ¬part.operator.Incomparable (.text "canada") part.value ∧
      part.operator.Holds (.text "canada") part.value ∧ verdict part = .yes) ∧
    (broken.operator ≠ .present ∧ broken.operator.Incomparable (.text "canada") broken.value ∧
      verdict broken = .unknown) ∧
    (empty.operator = .substring ∧ empty.value = .text "" ∧ verdict empty = .yes) := by
  intro user before verdict presence part broken empty
  have missing : Missing user "plan" := .inr (by decide)
  have there : user "country" = some (.text "canada") := rfl
  obtain ⟨present, -, -⟩ := follows_operator_table before user presence
  obtain ⟨-, compared, -⟩ := follows_operator_table before user part
  obtain ⟨-, unknown, -⟩ := follows_operator_table before user broken
  obtain ⟨-, -, always⟩ := follows_operator_table before user empty
  have comparable : ¬part.operator.Incomparable (.text "canada") part.value :=
    Operator.Tells.comparable_texts (.substring "canada" "nad") (by decide)
  have holds : part.operator.Holds (.text "canada") part.value := .occurs "ca" "nad" "a"
  have invalid : ∀ p, Engine.compile "(" ≠ .ok p := by
    intro p compiled
    have refused : (Engine.compile "(").isOk = false := by decide +kernel
    rw [compiled] at refused
    cases refused
  have incomparable : broken.operator.Incomparable (.text "canada") broken.value :=
    .pattern rfl invalid
  exact ⟨⟨rfl, missing, (present rfl).2.2 missing⟩,
    ⟨by decide, there, comparable, holds,
      ((compared (by decide)).2 _ there comparable).1.2 holds⟩,
    ⟨by decide, incomparable, (unknown (by decide)).1.2 (.inr ⟨_, there, incomparable⟩)⟩,
    ⟨rfl, rfl, always rfl rfl "canada" there⟩⟩

end Leaf

end Targeting

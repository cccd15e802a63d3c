import Mathlib.Data.List.DropRight
import Targeting.Proofs.Run
import Targeting.Proofs.Uncached

/-!
# Validation rejects what can never be decided

A leaf passes validation exactly if it has a name and some user decides it: one whose attribute is
the expected value itself (`Leaf.sample`). A named leaf that fails is unknown for every source,
since its operator cannot compare anything with the expected value or its pattern is none. A
condition passes exactly if all its leaves do (`Condition.check_eq_ok_iff`).
-/

set_option autoImplicit false

namespace Targeting

/-- The text without the white space around it. -/
def Text.trim (s : String) : String :=
  String.ofList ((s.toList.dropWhile isSpace).rdropWhile isSpace)

theorem Text.trim_eq_empty_iff (s : String) : trim s = "" ↔ isBlank s = true := by
  have blank : trim s = "" ↔ (s.toList.dropWhile isSpace).rdropWhile isSpace = [] := by
    constructor
    · intro h
      simpa [trim] using congrArg String.toList h
    · intro h
      rw [trim, h]
  rw [blank, List.rdropWhile_eq_nil_iff, isBlank, List.all_eq_true]
  constructor
  · intro rest c member
    rw [← List.takeWhile_append_dropWhile (p := isSpace) (l := s.toList)] at member
    rcases List.mem_append.1 member with front | back
    · exact List.mem_takeWhile_imp front
    · exact rest c back
  · intro all c member
    exact all c ((List.dropWhile_suffix _).subset member)

/-- Can the operator compare anything with the value? -/
def Operator.takes : Operator → Value → Bool
  | .present, _ => true
  | .exact, v => v.asText?.isSome || v.asFlag?.isSome || v.asFinite?.isSome
  | .substring, v => v.asText?.isSome
  | .regex, v => v.asText?.isSome
  | _, v => v.asFinite?.isSome

theorem Value.asFinite?_eq_some_iff {v : Value} {x : Binary64} :
    v.asFinite? = some x ↔ v = .number x ∧ x.isFinite = true := by
  cases v with
  | number y =>
    simp only [asFinite?, Option.ite_none_right_eq_some, Option.some.injEq, number.injEq]
    constructor
    · rintro ⟨finite, rfl⟩
      exact ⟨rfl, finite⟩
    · rintro ⟨rfl, finite⟩
      exact ⟨finite, rfl⟩
  | _ => simp [asFinite?]

/-- An operator that compares takes no number that is not finite. -/
theorem Operator.isFinite_of_takes {o : Operator} {x : Binary64} (compares : o ≠ .present)
    (taken : o.takes (.number x) = true) : x.isFinite = true := by
  cases o <;> simp_all [takes, Value.asText?, Value.asFlag?, Value.asFinite?]

namespace Leaf

/-- The flaws that show without compiling are a blank name and a value that the operator does not
take. -/
theorem flaw?_eq_none_iff (l : Leaf) :
    l.flaw? = none ↔ Text.isBlank l.name = false ∧ l.operator.takes l.value = true := by
  have number (x : Binary64) :
      x.flaw? = none ↔ (Value.number x).asFinite?.isSome = true := by
    unfold Binary64.flaw? Value.asFinite?
    cases finite : x.isFinite <;> simp [finite]
  obtain ⟨name, operator, value⟩ := l
  unfold flaw?
  cases Text.isBlank name with
  | true => simp
  | false =>
    cases value with
    | number x => cases operator <;> simp [Operator.takes, Value.asText?, Value.asFlag?, number]
    | _ => cases operator <;>
        simp [Operator.takes, Value.asText?, Value.asFlag?, Value.asFinite?]

theorem compare?_eq_none {expected : Value} (h : expected.asFinite? = none) (actual : Value) :
    compare? actual expected = none := by
  unfold compare?
  rw [h]
  cases actual.asFinite? <;> rfl

theorem equal?_eq_none {expected : Value} (noText : expected.asText? = none)
    (noFlag : expected.asFlag? = none) (notFinite : expected.asFinite? = none) (actual : Value) :
    equal? actual expected = none := by
  have compared := compare?_eq_none notFinite actual
  cases expected with
  | null => cases actual <;> rfl
  | flag b => cases noFlag
  | text s => cases noText
  | number x => cases actual <;> simp [equal?, compared]

theorem compare?_isSome {actual expected : Value} (finite : actual.asFinite?.isSome = true)
    (finite' : expected.asFinite?.isSome = true) : (compare? actual expected).isSome = true := by
  obtain ⟨x, found⟩ := Option.isSome_iff_exists.1 finite
  obtain ⟨y, found'⟩ := Option.isSome_iff_exists.1 finite'
  have both : x.isFinite = true ∧ y.isFinite = true :=
    ⟨(Value.asFinite?_eq_some_iff.1 found).2, (Value.asFinite?_eq_some_iff.1 found').2⟩
  simp [compare?, found, found', Binary64.order?, both]

/-- Values of one kind are equal or not, unless they are null or one is a number that is not
finite. -/
theorem equal?_isSome {actual expected : Value} (like : actual.kind = expected.kind)
    (finite : ∀ x, actual = .number x → x.isFinite = true)
    (taken : expected.asText?.isSome = true ∨ expected.asFlag?.isSome = true ∨
      expected.asFinite?.isSome = true) : (equal? actual expected).isSome = true := by
  cases actual with
  | null =>
    cases expected <;>
      simp [Value.kind, Value.asText?, Value.asFlag?, Value.asFinite?] at like taken
  | flag a => cases expected <;> simp [Value.kind, equal?] at like ⊢
  | text s => cases expected <;> simp [Value.kind, equal?] at like ⊢
  | number x =>
    cases expected with
    | number y =>
      have expectedFinite : (Value.number y).asFinite?.isSome = true := by
        rcases taken with taken | taken | taken
        · cases taken
        · cases taken
        · exact taken
      have actualFinite : (Value.number x).asFinite?.isSome = true := by
        simp [Value.asFinite?, finite x rfl]
      simp [equal?, compare?_isSome actualFinite expectedFinite]
    | _ => simp [Value.kind] at like

variable [Engine]

/-- A leaf passes exactly if it has no flaw and its pattern, if it looks for one, compiles. -/
theorem check_eq_ok_iff (l : Leaf) :
    l.check = .ok () ↔ (Text.isBlank l.name = false ∧ l.operator.takes l.value = true) ∧
      ∀ pattern, l.pattern? = some pattern → ∃ c, compileAfresh pattern = .ok c := by
  rw [← flaw?_eq_none_iff]
  unfold check
  cases l.flaw? with
  | some flaw => simp
  | none =>
    cases l.pattern? with
    | none => simp
    | some pattern => cases compiled : compileAfresh pattern <;> simp [compiled]

/-- Nothing can be compared with a value that the operator does not take. -/
theorem compareAfresh_of_not_takes {l : Leaf} (h : l.operator.takes l.value = false)
    (actual : Value) : l.compareAfresh actual = none := by
  unfold compareAfresh
  cases operator : l.operator with
  | present => simp [operator, Operator.takes] at h
  | exact =>
    simp only [operator, Operator.takes, Bool.or_eq_false_iff, Option.isSome_eq_false_iff,
      Option.isNone_iff_eq_none] at h
    obtain ⟨⟨noText, noFlag⟩, notFinite⟩ := h
    exact equal?_eq_none noText noFlag notFinite actual
  | substring =>
    simp only [operator, Operator.takes, Option.isSome_eq_false_iff,
      Option.isNone_iff_eq_none] at h
    rw [h]
    cases actual.asText? <;> rfl
  | regex =>
    simp only [operator, Operator.takes, Option.isSome_eq_false_iff,
      Option.isNone_iff_eq_none] at h
    rw [h]
    cases actual.asText? <;> rfl
  | _ =>
    simp only [operator, Operator.takes, Option.isSome_eq_false_iff,
      Option.isNone_iff_eq_none] at h
    simp only [compare?_eq_none h actual, Option.map_none]

/-- A named leaf that fails validation can compare nothing. -/
theorem compareAfresh_of_fails {l : Leaf} (named : Text.isBlank l.name = false)
    (fails : l.check ≠ .ok ()) :
    l.operator ≠ .present ∧ ∀ actual, l.compareAfresh actual = none := by
  rw [ne_eq, check_eq_ok_iff] at fails
  cases taken : l.operator.takes l.value with
  | false =>
    refine ⟨?_, compareAfresh_of_not_takes taken⟩
    intro operator
    simp [operator, Operator.takes] at taken
  | true =>
    obtain ⟨pattern, asked, broken⟩ :
        ∃ pattern, l.pattern? = some pattern ∧ ∀ c, compileAfresh pattern ≠ .ok c := by
      simpa [named, taken] using fails
    have operator : l.operator = .regex := by
      unfold pattern? at asked
      split at asked
      · assumption
      · cases asked
    simp only [pattern?, operator] at asked
    refine ⟨by simp [operator], fun actual => ?_⟩
    cases compiled : compileAfresh pattern with
    | ok c => exact absurd compiled (broken c)
    | error e =>
      simp only [compareAfresh, operator, asked]
      cases actual.asText? with
      | none => rfl
      | some a => simp [compiled, Except.toOption]

/-- A leaf that passes can compare any value of the kind of the expected one, if it is finite. -/
theorem compareAfresh_isSome {l : Leaf} (passes : l.check = .ok ()) (compares : l.operator ≠ .present)
    {actual : Value} (like : actual.kind = l.value.kind)
    (finite : ∀ x, actual = .number x → x.isFinite = true) :
    (l.compareAfresh actual).isSome = true := by
  obtain ⟨⟨-, taken⟩, compiles⟩ := (check_eq_ok_iff l).1 passes
  have texts {e : String} (expected : l.value.asText? = some e) : ∃ a, actual.asText? = some a := by
    cases value : l.value with
    | text s =>
      rw [value] at like
      cases actual with
      | text a => exact ⟨a, rfl⟩
      | _ => simp [Value.kind] at like
    | _ => simp [value, Value.asText?] at expected
  unfold compareAfresh
  cases operator : l.operator with
  | present => exact absurd operator compares
  | exact =>
    simp only [operator, Operator.takes, Bool.or_eq_true, or_assoc] at taken
    exact equal?_isSome like finite taken
  | substring =>
    simp only [operator, Operator.takes] at taken
    obtain ⟨e, expected⟩ := Option.isSome_iff_exists.1 taken
    obtain ⟨a, found⟩ := texts expected
    rw [expected, found]
    rfl
  | regex =>
    simp only [operator, Operator.takes] at taken
    obtain ⟨e, expected⟩ := Option.isSome_iff_exists.1 taken
    obtain ⟨a, found⟩ := texts expected
    obtain ⟨c, compiled⟩ := compiles e (by rw [pattern?, operator]; exact expected)
    rw [expected, found]
    simp [compiled, Except.toOption]
  | _ =>
    simp only [operator, Operator.takes] at taken
    have found : actual.asFinite?.isSome = true := by
      cases value : l.value with
      | number y =>
        rw [value] at like
        cases actual with
        | number x => simp [Value.asFinite?, finite x rfl]
        | _ => simp [Value.kind] at like
      | _ => simp [value, Value.asFinite?] at taken
    simp only [Option.isSome_map, compare?_isSome found taken]

/-- A leaf that passes can compare the expected value with itself. -/
theorem compareAfresh_value_isSome {l : Leaf} (passes : l.check = .ok ())
    (compares : l.operator ≠ .present) : (l.compareAfresh l.value).isSome = true := by
  obtain ⟨⟨-, taken⟩, -⟩ := (check_eq_ok_iff l).1 passes
  apply compareAfresh_isSome passes compares rfl
  intro x number
  rw [number] at taken
  exact Operator.isFinite_of_takes compares taken

/-- A value of the attribute that decides a leaf which passes: the expected value itself. -/
def sample (l : Leaf) : Value :=
  match l.operator with
  | .present => .flag true
  | _ => l.value

/-- The attributes of a user who has nothing but that value. -/
def sampleUser (l : Leaf) : Attributes :=
  Table.empty.insert l.name l.sample

theorem known_sampleUser {l : Leaf} (passes : l.check = .ok ()) :
    known l.sampleUser.find? l.name = some l.sample := by
  have notNull : l.sample.isNull = false := by
    obtain ⟨⟨-, taken⟩, -⟩ := (check_eq_ok_iff l).1 passes
    unfold sample
    cases value : l.value with
    | null => cases operator : l.operator <;> simp_all [Operator.takes, Value.isNull,
        Value.asText?, Value.asFlag?, Value.asFinite?]
    | _ => cases l.operator <;> rfl
  rw [known, sampleUser, Table.find?_insert, if_pos rfl]
  simp [notNull]

/-- Some user decides a leaf that passes. -/
theorem verdict_sampleUser {l : Leaf} (passes : l.check = .ok ()) :
    l.verdict l.sampleUser.find? ≠ .unknown := by
  intro unknown
  obtain ⟨compares, none⟩ := (verdict_eq_unknown_iff _ l).1 unknown
  have sampled : l.sample = l.value := by
    unfold sample
    split
    · rename_i present
      exact absurd present compares
    · rfl
  have same := none l.sample (known_sampleUser passes)
  have some := compareAfresh_value_isSome passes compares
  rw [sampled] at same
  rw [same] at some
  cases some

/-- A named leaf that fails is unknown whatever is known of a user. -/
theorem verdict_of_fails {l : Leaf} (named : Text.isBlank l.name = false)
    (fails : l.check ≠ .ok ()) (look : String → Option Value) : l.verdict look = .unknown := by
  obtain ⟨compares, none⟩ := compareAfresh_of_fails named fails
  exact (verdict_eq_unknown_iff look l).2 ⟨compares, fun actual _ => none actual⟩

end Leaf

namespace Condition

variable [Engine]

-- A loop over parts passes exactly if the loop over all their leaves would.
mutual

/-- A condition passes exactly if all its leaves do. -/
theorem check_eq_ok_iff : (c : Condition) → c.check = .ok () ↔ ∀ l ∈ c.leaves, l.check = .ok ()
  | and parts => by simpa only [check, leaves] using checkAll_eq_ok_iff parts
  | or parts => by simpa only [check, leaves] using checkAll_eq_ok_iff parts
  | not part => by simpa only [check, leaves] using check_eq_ok_iff part
  | leaf l => by simp only [check, leaves, List.forall_mem_singleton]

theorem checkAll_eq_ok_iff : (parts : List Condition) →
    checkAll parts = .ok () ↔ ∀ l ∈ leavesList parts, l.check = .ok ()
  | [] => by simp [checkAll, leavesList]
  | part :: parts => by
    have first := check_eq_ok_iff part
    have rest := checkAll_eq_ok_iff parts
    simp only [checkAll, leavesList, List.forall_mem_append, ← first, ← rest]
    cases check part <;> simp

end

end Condition

namespace Session

section AnyEngine

variable [Engine]

/-- **Validation rejects exactly what cannot work.** Whatever a session did before, a condition
passes if and only if each of its leaves has a name that is not blank and is decided for some user;
and a named leaf fails if and only if it is unknown for every source. Leaves may be evaluated at any
other time. -/
theorem validate_ok_iff_decidable (before later : List Operation) :
    (∀ c : Condition, (c.validate (start.after before).caches.patterns).result = .ok () ↔
      ∀ l ∈ c.leaves, Text.trim l.name ≠ "" ∧ ∃ user : Attributes,
        (l.evaluate user.find? (start.after later).caches.patterns).result ≠ .unknown) ∧
    (∀ l : Leaf, Text.trim l.name ≠ "" →
      ((l.validate (start.after before).caches.patterns).result ≠ .ok () ↔
        ∀ look : String → Option Value,
          (l.evaluate look (start.after later).caches.patterns).result = .unknown)) := by
  have checked (l : Leaf) := l.result_validate (sound_after before)
  have evaluated (l : Leaf) (look : String → Option Value) :=
    l.result_evaluate (sound_after later) look
  have named (l : Leaf) : Text.trim l.name ≠ "" ↔ Text.isBlank l.name = false := by
    rw [ne_eq, Text.trim_eq_empty_iff, Bool.not_eq_true]
  simp only [checked, evaluated, named, Condition.result_validate (sound_after before),
    Condition.check_eq_ok_iff]
  constructor
  · intro c
    refine forall₂_congr fun l _ => ?_
    constructor
    · intro passes
      have name : Text.isBlank l.name = false := ((Leaf.check_eq_ok_iff l).1 passes).1.1
      exact ⟨name, l.sampleUser, Leaf.verdict_sampleUser passes⟩
    · rintro ⟨name, user, decided⟩
      by_contra fails
      exact decided (Leaf.verdict_of_fails name fails user.find?)
  · intro l name
    constructor
    · exact Leaf.verdict_of_fails name
    · intro unknown passes
      exact Leaf.verdict_sampleUser passes (unknown _)

end AnyEngine

/-- A leaf that bounds a number by a text has a name and fails, so no source decides it. -/
theorem textual_bound_unknown :
    let l : Leaf := ⟨"age", .ge, .text "18"⟩
    Text.trim l.name ≠ "" ∧
      (l.validate (start.after [.validate (.leaf l)]).caches.patterns).result ≠ .ok () ∧
      ∀ look : String → Option Value,
        (l.evaluate look (start.after [.clear]).caches.patterns).result = .unknown := by
  intro l
  have named : Text.trim l.name ≠ "" := by
    rw [ne_eq, Text.trim_eq_empty_iff]
    decide
  have fails : (l.validate (start.after [.validate (.leaf l)]).caches.patterns).result ≠ .ok () := by
    decide
  obtain ⟨-, leaves⟩ := validate_ok_iff_decidable [.validate (.leaf l)] [.clear]
  exact ⟨named, fails, (leaves l named).1 fails⟩

end Session

end Targeting

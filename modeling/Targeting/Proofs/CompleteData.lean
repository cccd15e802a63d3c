import Targeting.Proofs.Completion
import Targeting.Proofs.Learning
import Targeting.Proofs.Reach

/-!
# On complete data a valid condition is a Boolean formula

A leaf that passes validation is decided by every value of the kind it expects, if a number is finite
(`Leaf.verdict_of_suits`). So a valid condition whose leaves all find such values has a truth value
like any formula of two-valued logic, and its negation the other one. Where a valid condition is
unknown, a leaf was reached that found no such value (`Condition.exists_reached_unknown`), and what
happened names it (`Session.boolean_on_complete_data`).
-/

set_option autoImplicit false

namespace Targeting

namespace Leaf

/-- A value that the leaf is meant for: of the kind of the expected value, not null, and finite if it
is a number. -/
structure Suits (l : Leaf) (actual : Value) : Prop where
  notNull : actual ≠ .null
  like : actual.kind = l.value.kind
  finite : ∀ x, actual = .number x → x.isFinite = true

/-- The leaf finds nothing, null, a value of another kind than the expected one, or a number that is
not finite. -/
def Lacks (l : Leaf) (look : String → Option Value) : Prop :=
  look l.name = none ∨ look l.name = some .null ∨
    ∃ actual, look l.name = some actual ∧
      (actual.kind ≠ l.value.kind ∨ ∃ x, actual = .number x ∧ x.isFinite = false)

theorem lacks_of_not_suits {l : Leaf} {look : String → Option Value}
    (unsuited : ¬∃ actual, look l.name = some actual ∧ l.Suits actual) : l.Lacks look := by
  unfold Lacks
  cases found : look l.name with
  | none => exact .inl rfl
  | some actual =>
    refine .inr ?_
    by_cases null : actual = .null
    · exact .inl (congrArg some null)
    · refine .inr ⟨actual, rfl, ?_⟩
      by_cases like : actual.kind = l.value.kind
      · right
        by_contra finite
        refine unsuited ⟨actual, found, null, like, fun x number => ?_⟩
        by_contra infinite
        exact finite ⟨x, number, by simpa using infinite⟩
      · exact .inl like

theorem known_of_suits {l : Leaf} {look : String → Option Value} {actual : Value}
    (found : look l.name = some actual) (suits : l.Suits actual) :
    known look l.name = some actual := by
  have notNull : actual.isNull = false := by
    cases actual with
    | null => exact absurd rfl suits.notNull
    | _ => rfl
  simp [known, found, notNull]

/-- A leaf that is unknown says so: it was looked up, and either nothing was found, or a value that
cannot be compared. -/
structure Reports (l : Leaf) (events : List Event) : Prop where
  lookedUp : .lookedUp l.name ∈ events
  why : .missing l ∈ events ∨ ∃ actual, .incomparable l actual ∈ events

theorem Reports.mono {l : Leaf} {events later : List Event} (reports : l.Reports events)
    (happens : ∀ e ∈ events, e ∈ later) : l.Reports later where
  lookedUp := happens _ reports.lookedUp
  why := by
    rcases reports.why with missing | ⟨actual, incomparable⟩
    · exact .inl (happens _ missing)
    · exact .inr ⟨actual, happens _ incomparable⟩

variable [Engine]

/-- A leaf that passes is decided by every value that it is meant for. -/
theorem verdict_of_suits {l : Leaf} {look : String → Option Value} {actual : Value}
    (passes : l.check = .ok ()) (compares : l.operator ≠ .present)
    (found : look l.name = some actual) (suits : l.Suits actual) : l.verdict look ≠ .unknown := by
  intro unknown
  obtain ⟨-, nothing⟩ := (verdict_eq_unknown_iff look l).1 unknown
  have compared := compareAfresh_isSome passes compares suits.like suits.finite
  rw [nothing actual (known_of_suits found suits)] at compared
  cases compared

theorem reports_of_unknown {l : Leaf} {look : String → Option Value} {cache : PatternCache}
    (unknown : (l.evaluate look cache).result = .unknown) :
    l.Reports (l.evaluate look cache).events := by
  by_cases test : l.operator = .present
  · simp only [evaluate, test, if_true] at unknown
    exact absurd unknown (Verdict.ofBool_ne_unknown _)
  · cases found : known look l.name with
    | none =>
      simp only [evaluate, test, if_false, found]
      exact ⟨List.mem_cons_self, .inl (List.mem_cons_of_mem _ List.mem_cons_self)⟩
    | some actual =>
      cases compared : (l.compare actual cache).result with
      | some b =>
        simp only [evaluate, test, if_false, found, compared] at unknown
        exact absurd unknown (Verdict.ofBool_ne_unknown b)
      | none =>
        simp only [evaluate, test, if_false, found, compared]
        exact ⟨List.mem_cons_self, .inr ⟨actual, List.mem_append_right _ List.mem_cons_self⟩⟩

end Leaf

namespace Verdict

theorem eq_ofBool_iff (v : Verdict) (t : Bool) : v = ofBool t ↔ ∀ b, v.Admits b ↔ t = b := by
  cases v <;> cases t <;> decide

/-- If a connective is unknown over several verdicts, none of them settles it, and one is unknown. -/
theorem of_foldl_eq_unknown {connect : Verdict → Verdict → Verdict} {settling : Verdict}
    (decided : settling ≠ .unknown)
    (settled : ∀ v w, v = settling ∨ w = settling → connect v w = settling)
    (unknown : ∀ v w, connect v w = .unknown → v = .unknown ∨ w = .unknown) {v : Verdict}
    {vs : List Verdict} (fold : vs.foldl connect v = .unknown) :
    settling ∉ v :: vs ∧ .unknown ∈ v :: vs := by
  induction vs generalizing v with
  | nil =>
    rw [show v = .unknown from fold]
    exact ⟨by simpa using decided, List.mem_cons_self⟩
  | cons w vs ih =>
    obtain ⟨unsettled, doubtful⟩ := ih fold
    have first : settling ≠ connect v w := List.ne_of_not_mem_cons unsettled
    have rest : settling ∉ vs := List.not_mem_of_not_mem_cons unsettled
    constructor
    · intro member
      rcases List.mem_cons.1 member with rfl | member
      · exact first (settled _ w (.inl rfl)).symm
      · rcases List.mem_cons.1 member with rfl | member
        · exact first (settled v _ (.inr rfl)).symm
        · exact rest member
    · rcases List.mem_cons.1 doubtful with here | later
      · rcases unknown v w here.symm with rfl | rfl
        · exact List.mem_cons_self
        · exact List.mem_cons_of_mem _ List.mem_cons_self
      · exact List.mem_cons_of_mem _ (List.mem_cons_of_mem _ later)

end Verdict

namespace Condition

variable {value : Leaf → Verdict}

/-- Leaves that are all decided have one completion. -/
theorem completes_iff_of_decided {truth : Leaf → Bool} {ls : List Leaf}
    (decided : ∀ l ∈ ls, value l = .ofBool (truth l)) (bs : List Bool) :
    Completes value ls bs ↔ bs = ls.map truth := by
  induction ls generalizing bs with
  | nil => exact List.forall₂_nil_left_iff
  | cons l ls ih =>
    obtain ⟨first, rest⟩ := List.forall_mem_cons.1 decided
    have admits := (Verdict.eq_ofBool_iff (value l) (truth l)).1 first
    unfold Completes at ih ⊢
    rw [List.forall₂_cons_left_iff, List.map_cons]
    constructor
    · rintro ⟨b, bs, admitted, others, rfl⟩
      rw [(admits b).1 admitted, (ih rest bs).1 others]
    · rintro rfl
      exact ⟨truth l, ls.map truth, (admits _).2 rfl, (ih rest _).2 rfl, rfl⟩

/-- **A condition whose leaves are all decided has its value in two-valued logic.** -/
theorem kleene_eq_ofBool {truth : Leaf → Bool} (c : Condition)
    (decided : ∀ l ∈ c.leaves, value l = .ofBool (truth l)) :
    c.kleene value = .ofBool (c.truth (c.leaves.map truth)) := by
  rw [Verdict.eq_ofBool_iff]
  intro b
  rw [admits_kleene_iff]
  constructor
  · rintro ⟨bs, completes, rfl⟩
    rw [(completes_iff_of_decided decided bs).1 completes]
  · rintro rfl
    exact ⟨_, (completes_iff_of_decided decided _).2 rfl, rfl⟩

-- A composite is unknown only if none of its parts settles it; then all of them are reached, and one
-- of them is unknown.
mutual

/-- An unknown condition has an unknown leaf among those that are reached. -/
theorem exists_reached_unknown : (c : Condition) → c.kleene value = .unknown →
    ∃ l ∈ c.reached value, value l = .unknown
  | and parts, h => by
    rw [kleene] at h
    have decided : Verdict.no ≠ .unknown := by decide
    obtain ⟨unsettled, doubtful⟩ := Verdict.of_foldl_eq_unknown decided
      (by intro v w; cases v <;> cases w <;> decide) (by intro v w; cases v <;> cases w <;> decide) h
    have part : .unknown ∈ kleenes value parts := by simpa using doubtful
    rw [reached]
    exact exists_reachedUpTo_unknown parts (List.not_mem_of_not_mem_cons unsettled) part
  | or parts, h => by
    rw [kleene] at h
    have decided : Verdict.yes ≠ .unknown := by decide
    obtain ⟨unsettled, doubtful⟩ := Verdict.of_foldl_eq_unknown decided
      (by intro v w; cases v <;> cases w <;> decide) (by intro v w; cases v <;> cases w <;> decide) h
    have part : .unknown ∈ kleenes value parts := by simpa using doubtful
    rw [reached]
    exact exists_reachedUpTo_unknown parts (List.not_mem_of_not_mem_cons unsettled) part
  | not part, h => by
    have unknown : part.kleene value = .unknown := by
      rw [← Verdict.not_not (part.kleene value)]
      exact congrArg Verdict.not h
    rw [reached]
    exact exists_reached_unknown part unknown
  | leaf l, h => ⟨l, List.mem_singleton_self l, h⟩

theorem exists_reachedUpTo_unknown {settling : Verdict} : (parts : List Condition) →
    settling ∉ kleenes value parts → .unknown ∈ kleenes value parts →
      ∃ l ∈ reachedUpTo value settling parts, value l = .unknown
  | part :: parts, unsettled, doubtful => by
    rw [kleenes, List.mem_cons, not_or] at unsettled
    rw [kleenes, List.mem_cons] at doubtful
    rw [reachedUpTo_of_open parts (Ne.symm unsettled.1)]
    rcases doubtful with here | later
    · obtain ⟨l, reached, unknown⟩ := exists_reached_unknown part here.symm
      exact ⟨l, List.mem_append_left _ reached, unknown⟩
    · obtain ⟨l, reached, unknown⟩ := exists_reachedUpTo_unknown parts unsettled.2 later
      exact ⟨l, List.mem_append_right _ reached, unknown⟩

end

variable [Engine]

variable {look : String → Option Value} {c : Condition} {cache : PatternCache}

/-- Every leaf that compares finds a value that it is meant for. -/
def Complete (c : Condition) (look : String → Option Value) : Prop :=
  ∀ l ∈ c.leaves, l.operator ≠ .present → ∃ actual, look l.name = some actual ∧ l.Suits actual

/-- On complete data every leaf of a valid condition is decided. -/
theorem Complete.decided (complete : c.Complete look) (passes : ∀ l ∈ c.leaves, l.check = .ok ())
    {l : Leaf} (member : l ∈ c.leaves) : l.verdict look = .ofBool (l.verdict look == .yes) := by
  have known : l.verdict look ≠ .unknown := by
    by_cases test : l.operator = .present
    · rw [Leaf.verdict_present test]
      cases (known look l.name).isSome <;> simp [Verdict.ofBool]
    · obtain ⟨actual, found, suits⟩ := complete l member test
      exact Leaf.verdict_of_suits (passes l member) test found suits
  cases verdict : l.verdict look with
  | yes => rfl
  | no => rfl
  | unknown => exact absurd verdict known

/-- A valid condition that is unknown reached a leaf that reports what it lacks. -/
theorem exists_lacks_of_unknown (sound : cache.Sound) (passes : ∀ l ∈ c.leaves, l.check = .ok ())
    (unknown : (c.evaluate look cache).result = .unknown) :
    ∃ l ∈ c.leaves, l.operator ≠ .present ∧ l.Lacks look ∧
      l.Reports (c.evaluate look cache).events := by
  rw [result_eq_kleene look sound] at unknown
  obtain ⟨l, reached, open_⟩ := exists_reached_unknown c unknown
  have member : l ∈ c.leaves := c.mem_leaves_of_mem_reached reached
  obtain ⟨compares, -⟩ := (Leaf.verdict_eq_unknown_iff look l).1 open_
  refine ⟨l, member, compares, ?_, ?_⟩
  · apply Leaf.lacks_of_not_suits
    rintro ⟨actual, found, suits⟩
    exact Leaf.verdict_of_suits (passes l member) compares found suits open_
  · have keeps : ∀ l k, k.Sound → (Leaf.evaluate look l k).cache.Sound :=
      fun l k sound => (l.evaluate_accounts look k).sound sound
    obtain ⟨k, sound', happens⟩ := Outcome.exists_step_of_mem _ keeps sound reached
    rw [(evaluate_runs look sound c).told]
    apply Leaf.Reports.mono _ happens
    apply Leaf.reports_of_unknown
    rw [l.result_evaluate sound']
    exact open_

end Condition

namespace Session

section AnyEngine

variable [Engine]

/-- **On complete data a valid condition is a Boolean formula.** Say a condition passed validation at
some moment. On every source on which its leaves find what they are meant for, every leaf is decided,
the condition has the value that two-valued logic gives it, and an audience on its negation has
exactly the users that an audience on the condition does not have. And wherever the condition is
unknown, a leaf that compares was looked up and lacks what it is meant for. Conditions, leaves and
audiences may each be evaluated at any moment. -/
theorem boolean_on_complete_data (checked : List Operation) (c : Condition)
    (valid : (c.validate (start.after checked).caches.patterns).result = .ok ())
    (before after : List Operation) (moment : Leaf → List Operation) :
    let cache := (start.after before).caches.patterns
    let cache' := (start.after after).caches.patterns
    (∀ look : String → Option Value, c.Complete look →
      let verdict (l : Leaf) := (l.evaluate look (start.after (moment l)).caches.patterns).result
      (∀ l ∈ c.leaves, verdict l ≠ .unknown) ∧
      (c.evaluate look cache).result ≠ .unknown ∧
      (c.evaluate look cache).result = .ofBool (c.truth (c.leaves.map (verdict · == .yes))) ∧
      ∀ a b : Audience, a.conditions = c → b.conditions = .not c →
        ((b.isMatch look cache').result = true ↔ ¬(a.isMatch look cache).result = true)) ∧
    (∀ look : String → Option Value, (c.evaluate look cache).result = .unknown →
      ∃ l ∈ c.leaves, l.operator ≠ .present ∧ l.Lacks look ∧
        l.Reports (c.evaluate look cache).events) := by
  intro cache cache'
  have passes : ∀ l ∈ c.leaves, l.check = .ok () := by
    rw [← Condition.check_eq_ok_iff, ← Condition.result_validate (sound_after checked), valid]
  constructor
  · intro look complete verdict
    have leaves : verdict = Leaf.verdict look := by
      funext l
      exact l.result_evaluate (sound_after _) look
    have decided : ∀ l ∈ c.leaves, verdict l = .ofBool (verdict l == .yes) := by
      rw [leaves]
      exact fun l member => complete.decided passes member
    have result (moment : List Operation) :
        (c.evaluate look (start.after moment).caches.patterns).result =
          .ofBool (c.truth (c.leaves.map (verdict · == .yes))) := by
      rw [Condition.result_evaluate_after, ← leaves, c.kleene_eq_ofBool decided]
    refine ⟨fun l member => ?_, ?_, result before, ?_⟩
    · rw [decided l member]
      cases verdict l == .yes <;> simp [Verdict.ofBool]
    · rw [result before]
      cases c.truth _ <;> simp [Verdict.ofBool]
    · intro a b same negated
      have belongs : (a.isMatch look cache).result = ((c.evaluate look cache).result == .yes) := by
        rw [← same]
        rfl
      have excluded : (b.isMatch look cache').result =
          ((c.evaluate look cache').result.not == .yes) := by
        show ((b.conditions.evaluate look cache').result == .yes) = _
        rw [negated]
        rfl
      rw [belongs, excluded, result before, result after]
      cases c.truth _ <;> decide
  · intro look unknown
    exact Condition.exists_lacks_of_unknown (sound_after before) passes unknown

end AnyEngine

/-- A rule is a formula for a user who has a country and an age, with nothing known of a leaf that asks
for presence; for a user whose age is a text it is unknown, and the leaf that bounds the age says so. -/
theorem textual_age_lacks_number :
    let rule : Condition := .or [.exact "country" (.text "NZ"),
      .not (.and [.test "age" .ge (.number ⟨0x4032000000000000⟩), .present "beta"])]
    let within : Audience := ⟨"7", "within", rule⟩
    let outside : Audience := ⟨"8", "outside", .not rule⟩
    let user : Attributes :=
      Table.empty.insert "country" (.text "AU") |>.insert "age" (.number ⟨0x403f000000000000⟩)
    let other : Attributes := Table.empty.insert "country" (.text "AU")
      |>.insert "age" (.text "31") |>.insert "beta" (.flag true)
    let cache := (start.after [.clear]).caches.patterns
    let cache' := (start.after [.evaluate rule]).caches.patterns
    let verdict (l : Leaf) := (l.evaluate user.find? (start.after []).caches.patterns).result
    ((rule.validate (start.after [.compile "("]).caches.patterns).result = .ok () ∧
      rule.Complete user.find? ∧ (rule.evaluate other.find? cache).result = .unknown) ∧
    ((∀ l ∈ rule.leaves, verdict l ≠ .unknown) ∧
      (rule.evaluate user.find? cache).result =
        .ofBool (rule.truth (rule.leaves.map (verdict · == .yes))) ∧
      ((outside.isMatch user.find? cache').result = true ↔
        ¬(within.isMatch user.find? cache).result = true)) ∧
    ∃ l ∈ rule.leaves, l.operator ≠ .present ∧ l.Lacks other.find? ∧
      l.Reports (rule.evaluate other.find? cache).events := by
  intro rule within outside user other cache cache' verdict
  have valid : (rule.validate (start.after [.compile "("]).caches.patterns).result = .ok () := by
    decide
  have complete : rule.Complete user.find? := by
    refine List.forall_mem_cons.2 ⟨fun _ => ?_, List.forall_mem_cons.2 ⟨fun _ => ?_,
      List.forall_mem_singleton.2 fun compares => absurd rfl compares⟩⟩
    · exact ⟨.text "AU", rfl, nofun, rfl, nofun⟩
    · refine ⟨.number ⟨0x403f000000000000⟩, rfl, nofun, rfl, ?_⟩
      rintro x ⟨⟩
      decide
  have unknown : (rule.evaluate other.find? cache).result = .unknown := by
    decide
  obtain ⟨formula, lacks⟩ :=
    boolean_on_complete_data [.compile "("] rule valid [.clear] [.evaluate rule] fun _ => []
  obtain ⟨decided, -, value, excluded⟩ := formula user.find? complete
  exact ⟨⟨valid, complete, unknown⟩, ⟨decided, value, excluded within outside rfl rfl⟩,
    lacks other.find? unknown⟩

end Session

end Targeting

import Targeting.Proofs.Completion

/-!
# Learning more never overturns a decision

A user about whom more becomes known may be decided where nothing was decided before, but what was
decided stays. More is known where a leaf finds a value under a name that had none; a leaf that asks
whether a name has a value at all is the exception, since it decides on nothing, so for its names
nothing may have changed (`Condition.Learns`). Each completion that the later verdicts leave open was
open before (`Verdict.Under`), so a truth value common to all completions stays common to them.
-/

set_option autoImplicit false

namespace Targeting

namespace Verdict

/-- The second verdict leaves open no more than the first. -/
def Under (v w : Verdict) : Prop :=
  ∀ b, w.Admits b → v.Admits b

theorem unknown_under (w : Verdict) : unknown.Under w :=
  fun _ _ => .inl rfl

/-- A decided verdict leaves only itself. -/
theorem Under.eq_of_decided {v w : Verdict} (h : v.Under w) (decided : v ≠ .unknown) : w = v := by
  cases v with
  | yes => exact (eq_yes_iff w).2 fun b admitted => (eq_yes_iff .yes).1 rfl b (h b admitted)
  | no => exact (eq_no_iff w).2 fun b admitted => (eq_no_iff .no).1 rfl b (h b admitted)
  | unknown => exact absurd rfl decided

end Verdict

namespace Condition

/-- For the leaves of a condition, the later source knows what the earlier one knows and maybe more;
leaves that ask for presence find the same. -/
structure Learns (c : Condition) (earlier later : String → Option Value) : Prop where
  presence : ∀ l ∈ c.leaves, l.operator = .present →
    (known earlier l.name).isSome = (known later l.name).isSome
  entries : ∀ l ∈ c.leaves, l.operator ≠ .present →
    earlier l.name = none ∨ earlier l.name = some .null ∨ earlier l.name = later l.name

/-- If the leaves leave open no more than before, their completions were completions before. -/
theorem Completes.of_under {value value' : Leaf → Verdict} {ls : List Leaf} {bs : List Bool}
    (under : ∀ l ∈ ls, (value l).Under (value' l)) (completes : Completes value' ls bs) :
    Completes value ls bs := by
  induction completes with
  | nil => exact .nil
  | @cons l b ls bs admitted _ ih =>
    have first := under l List.mem_cons_self b admitted
    have rest := ih fun m member => under m (List.mem_cons_of_mem l member)
    exact .cons first rest

/-- A condition whose leaves leave open no more than before leaves open no more than before. -/
theorem kleene_under {value value' : Leaf → Verdict} (c : Condition)
    (under : ∀ l ∈ c.leaves, (value l).Under (value' l)) :
    (c.kleene value).Under (c.kleene value') := by
  intro b admitted
  obtain ⟨bs, completes, gives⟩ := (admits_kleene_iff value' c b).1 admitted
  exact (admits_kleene_iff value c b).2 ⟨bs, completes.of_under under, gives⟩

end Condition

theorem known_eq_none_iff (look : String → Option Value) (name : String) :
    known look name = none ↔ look name = none ∨ look name = some .null := by
  unfold known
  cases look name with
  | none => simp
  | some v => cases v <;> simp [Value.isNull]

namespace Leaf

variable [Engine]

theorem verdict_of_unknown {look : String → Option Value} {l : Leaf} (test : l.operator ≠ .present)
    (nothing : known look l.name = none) : l.verdict look = .unknown := by
  refine (verdict_eq_unknown_iff look l).2 ⟨test, ?_⟩
  intro actual found
  rw [nothing] at found
  cases found

/-- What a leaf says depends on what is known under its name. -/
theorem verdict_congr {look look' : String → Option Value} {l : Leaf}
    (same : known look l.name = known look' l.name) : l.verdict look = l.verdict look' := by
  unfold verdict
  rw [same]

theorem verdict_present {look : String → Option Value} {l : Leaf} (test : l.operator = .present) :
    l.verdict look = .ofBool (known look l.name).isSome := by
  unfold verdict
  rw [test]

end Leaf

namespace Condition

variable {earlier later : String → Option Value}

/-- Whatever is known is more than nothing, as long as no leaf asks for presence. -/
theorem learns_of_nothing {c : Condition} (tests : ∀ l ∈ c.leaves, l.operator ≠ .present)
    (look : String → Option Value) : c.Learns (fun _ => none) look where
  presence l member test := absurd test (tests l member)
  entries _ _ _ := .inl rfl

variable [Engine]

theorem Learns.verdict_under {c : Condition} (learns : c.Learns earlier later) {l : Leaf}
    (member : l ∈ c.leaves) : (l.verdict earlier).Under (l.verdict later) := by
  by_cases test : l.operator = .present
  · have same := learns.presence l member test
    rw [Leaf.verdict_present test, Leaf.verdict_present test, same]
    exact fun _ admitted => admitted
  · rcases learns.entries l member test with nothing | null | same
    · have none := (known_eq_none_iff earlier l.name).2 (.inl nothing)
      rw [Leaf.verdict_of_unknown test none]
      exact Verdict.unknown_under _
    · have none := (known_eq_none_iff earlier l.name).2 (.inr null)
      rw [Leaf.verdict_of_unknown test none]
      exact Verdict.unknown_under _
    · have known : known earlier l.name = known later l.name := by
        unfold known
        rw [same]
      rw [Leaf.verdict_congr known]
      exact fun _ admitted => admitted

/-- A decision stays when more is known. -/
theorem Learns.kleene_eq {c : Condition} (learns : c.Learns earlier later)
    (decided : c.kleene (Leaf.verdict earlier) ≠ .unknown) :
    c.kleene (Leaf.verdict later) = c.kleene (Leaf.verdict earlier) :=
  (c.kleene_under fun _ member => learns.verdict_under member).eq_of_decided decided

end Condition

namespace Session

section AnyEngine

variable [Engine]

/-- **Learning more never overturns a decision.** Whatever a session did before each evaluation: a
condition that is decided by what is known earlier is decided the same way by what is known later, a
user who belonged to an audience still belongs to it, and a condition without leaves that ask for
presence says of everyone what it says of a user of whom nothing is known, if it says anything. -/
theorem decided_of_learns (before after : List Operation) :
    let cache := (start.after before).caches.patterns
    let cache' := (start.after after).caches.patterns
    (∀ (c : Condition) (earlier later : String → Option Value), c.Learns earlier later →
      (c.evaluate earlier cache).result ≠ .unknown →
        (c.evaluate later cache').result = (c.evaluate earlier cache).result) ∧
    (∀ (a : Audience) (earlier later : String → Option Value), a.conditions.Learns earlier later →
      (a.isMatch earlier cache).result = true → (a.isMatch later cache').result = true) ∧
    (∀ c : Condition, (∀ l ∈ c.leaves, l.operator ≠ .present) →
      (c.evaluate (fun _ => none) cache).result ≠ .unknown →
        ∀ look : String → Option Value,
          (c.evaluate look cache').result = (c.evaluate (fun _ => none) cache).result) := by
  intro cache cache'
  have first (look : String → Option Value) (c : Condition) :
      (c.evaluate look cache).result = c.kleene (Leaf.verdict look) :=
    c.result_evaluate_after before look
  have second (look : String → Option Value) (c : Condition) :
      (c.evaluate look cache').result = c.kleene (Leaf.verdict look) :=
    c.result_evaluate_after after look
  refine ⟨?_, ?_, ?_⟩
  · intro c earlier later learns decided
    rw [first] at decided
    rw [first, second]
    exact learns.kleene_eq decided
  · intro a earlier later learns matched
    have matched : a.conditions.kleene (Leaf.verdict earlier) = .yes := by
      rw [← first]
      exact eq_of_beq matched
    have kept := learns.kleene_eq (by simp [matched])
    have result : (a.evaluate later cache').result = .yes := by
      rw [Audience.evaluate, second, kept, matched]
    exact beq_of_eq result
  · intro c tests decided look
    rw [first] at decided
    rw [first, second]
    exact (Condition.learns_of_nothing tests look).kleene_eq decided

end AnyEngine

/-- A rule under two negations, beside a leaf that asks for presence, is decided by the country
alone; when the plan becomes known it stays so. A rule that holds of nobody in particular holds of
everyone. -/
theorem country_rule_stays_decided :
    let elsewhere : Condition := .not (.and [.exact "country" (.text "NZ"),
      .exact "plan" (.text "pro")])
    let a : Audience := ⟨"7", "elsewhere", .and [elsewhere, .not (.present "banned")]⟩
    let earlier : Attributes := Table.empty.insert "country" (.text "AU") |>.insert "plan" .null
    let later : Attributes := Table.empty.insert "country" (.text "AU") |>.insert "plan" (.text "pro")
    let open_ : Condition := .not (.and [.exact "plan" (.text "pro"), .or []])
    let cache := (start.after [.evaluate a.conditions]).caches.patterns
    let cache' := (start.after [.clear]).caches.patterns
    (a.conditions.Learns earlier.find? later.find? ∧
      (a.conditions.evaluate earlier.find? cache).result ≠ .unknown ∧
      (a.conditions.evaluate later.find? cache').result =
        (a.conditions.evaluate earlier.find? cache).result) ∧
    ((a.isMatch earlier.find? cache).result = true ∧ (a.isMatch later.find? cache').result = true) ∧
    ((∀ l ∈ open_.leaves, l.operator ≠ .present) ∧
      (open_.evaluate (fun _ => none) cache).result ≠ .unknown ∧
      ∀ look : String → Option Value, (open_.evaluate look cache').result =
        (open_.evaluate (fun _ => none) cache).result) := by
  intro elsewhere a earlier later open_ cache cache'
  obtain ⟨stays, matched, everyone⟩ := decided_of_learns [.evaluate a.conditions] [.clear]
  have learns : a.conditions.Learns earlier.find? later.find? := ⟨by decide, by decide⟩
  have decided : (a.conditions.evaluate earlier.find? cache).result ≠ .unknown := by decide
  have belongs : (a.isMatch earlier.find? cache).result = true := by decide
  have tests : ∀ l ∈ open_.leaves, l.operator ≠ .present := by decide
  have known : (open_.evaluate (fun _ => none) cache).result ≠ .unknown := by decide
  exact ⟨⟨learns, decided, stays _ _ _ learns decided⟩, ⟨belongs, matched a _ _ learns belongs⟩,
    tests, known, everyone open_ tests known⟩

end Session

end Targeting

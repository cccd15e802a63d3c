import Mathlib.Data.List.Forall2
import Targeting.Proofs.Kleene

/-!
# Unknown means that the missing data could go either way

A completion settles a condition: every leaf, occurrence by occurrence, gets a truth value that its
verdict admits, and an unknown leaf admits both. The Kleene value of a condition admits exactly the
truth values that its completions give (`Condition.admits_kleene_iff`), so it is `unknown` where some
completion makes the condition true and some makes it false, and the common truth value elsewhere.
-/

set_option autoImplicit false

namespace Targeting

namespace Verdict

/-- Could the question turn out that way? An unknown one could turn out either way. -/
def Admits (v : Verdict) (b : Bool) : Prop :=
  v = .unknown ∨ v = ofBool b

instance (v : Verdict) (b : Bool) : Decidable (v.Admits b) :=
  inferInstanceAs (Decidable (_ ∨ _))

theorem eq_yes_iff (v : Verdict) : v = .yes ↔ ∀ b, v.Admits b → b = true := by
  cases v <;> decide

theorem eq_no_iff (v : Verdict) : v = .no ↔ ∀ b, v.Admits b → b = false := by
  cases v <;> decide

theorem eq_unknown_iff (v : Verdict) : v = .unknown ↔ v.Admits true ∧ v.Admits false := by
  cases v <;> decide

theorem admits_not_iff (v : Verdict) (b : Bool) : v.not.Admits b ↔ v.Admits (!b) := by
  cases v <;> cases b <;> decide

theorem admits_and_iff (v w : Verdict) (b : Bool) :
    (v.and w).Admits b ↔ ∃ s t, v.Admits s ∧ w.Admits t ∧ (s && t) = b := by
  cases v <;> cases w <;> cases b <;> decide

theorem admits_or_iff (v w : Verdict) (b : Bool) :
    (v.or w).Admits b ↔ ∃ s t, v.Admits s ∧ w.Admits t ∧ (s || t) = b := by
  cases v <;> cases w <;> cases b <;> decide

/-- A connective that admits what its two sides can give admits, over a list, what all of them can
give. -/
theorem admits_foldl_iff {connect : Verdict → Verdict → Verdict} {op : Bool → Bool → Bool}
    (admits : ∀ v w b, (connect v w).Admits b ↔ ∃ s t, v.Admits s ∧ w.Admits t ∧ op s t = b)
    (v : Verdict) (vs : List Verdict) (b : Bool) :
    (vs.foldl connect v).Admits b ↔
      ∃ s ts, v.Admits s ∧ List.Forall₂ Admits vs ts ∧ ts.foldl op s = b := by
  induction vs generalizing v with
  | nil =>
    constructor
    · intro h
      exact ⟨b, [], h, .nil, rfl⟩
    · rintro ⟨s, ts, h, none, rfl⟩
      cases none
      exact h
  | cons w vs ih =>
    rw [List.foldl_cons, ih]
    constructor
    · rintro ⟨u, ts, h, rest, rfl⟩
      obtain ⟨s, t, first, second, rfl⟩ := (admits v w u).1 h
      exact ⟨s, t :: ts, first, .cons second rest, rfl⟩
    · rintro ⟨s, ts, first, rest, rfl⟩
      cases rest with
      | @cons _ t _ ts second rest =>
        exact ⟨op s t, ts, (admits v w _).2 ⟨s, t, first, second, rfl⟩, rest, rfl⟩

end Verdict

namespace Condition

theorem foldl_and_eq_all (s : Bool) (bs : List Bool) :
    bs.foldl (fun s t => s && t) s = (s && bs.all id) := by
  induction bs generalizing s with
  | nil => simp
  | cons t bs ih => simp [ih, Bool.and_assoc]

theorem foldl_or_eq_any (s : Bool) (bs : List Bool) :
    bs.foldl (fun s t => s || t) s = (s || bs.any id) := by
  induction bs generalizing s with
  | nil => simp
  | cons t bs ih => simp [ih, Bool.or_assoc]

mutual

/-- The truth value of a condition whose leaves, from left to right, have the given truth values. -/
def truth : Condition → List Bool → Bool
  | and parts, bs => (truths parts bs).all id
  | or parts, bs => (truths parts bs).any id
  | not part, bs => !truth part bs
  | leaf _, bs => bs.headD false

/-- The truth values of several conditions, the leaves of one following those of the one before. -/
def truths : List Condition → List Bool → List Bool
  | [], _ => []
  | part :: parts, bs =>
    truth part (bs.take part.leaves.length) :: truths parts (bs.drop part.leaves.length)

end

variable (value : Leaf → Verdict)

/-- The truth values are a way to settle the leaves, each occurrence for itself: a known leaf keeps
its value, an unknown one takes either. -/
def Completes (leaves : List Leaf) (bs : List Bool) : Prop :=
  List.Forall₂ (fun l b => (value l).Admits b) leaves bs

theorem completes_append_iff (ls ms : List Leaf) (bs : List Bool) :
    Completes value (ls ++ ms) bs ↔
      Completes value ls (bs.take ls.length) ∧ Completes value ms (bs.drop ls.length) := by
  constructor
  · intro h
    have front := List.forall₂_take ls.length h
    have back := List.forall₂_drop ls.length h
    rw [List.take_left] at front
    rw [List.drop_left] at back
    exact ⟨front, back⟩
  · rintro ⟨front, back⟩
    rw [← List.take_append_drop ls.length bs]
    exact List.rel_append front back

-- A list of parts is completed part by part; the value of a composite then admits what its
-- connective makes of the parts' truth values.
mutual

/-- The Kleene value of a condition admits exactly what its completions give. -/
theorem admits_kleene_iff : (c : Condition) → (b : Bool) →
    (c.kleene value).Admits b ↔ ∃ bs, Completes value c.leaves bs ∧ c.truth bs = b
  | and parts, b => by
    have each := admits_kleenes_iff parts
    simp only [kleene, leaves, truth, Verdict.admits_foldl_iff Verdict.admits_and_iff,
      foldl_and_eq_all]
    constructor
    · rintro ⟨s, ts, start, admitted, rfl⟩
      obtain ⟨bs, completes, rfl⟩ := (each ts).1 admitted
      have holds : s = true := (Verdict.eq_yes_iff .yes).1 rfl s start
      exact ⟨bs, completes, by rw [holds, Bool.true_and]⟩
    · rintro ⟨bs, completes, rfl⟩
      exact ⟨true, _, .inr rfl, (each _).2 ⟨bs, completes, rfl⟩, Bool.true_and _⟩
  | or parts, b => by
    have each := admits_kleenes_iff parts
    simp only [kleene, leaves, truth, Verdict.admits_foldl_iff Verdict.admits_or_iff,
      foldl_or_eq_any]
    constructor
    · rintro ⟨s, ts, start, admitted, rfl⟩
      obtain ⟨bs, completes, rfl⟩ := (each ts).1 admitted
      have fails : s = false := (Verdict.eq_no_iff .no).1 rfl s start
      exact ⟨bs, completes, by rw [fails, Bool.false_or]⟩
    · rintro ⟨bs, completes, rfl⟩
      exact ⟨false, _, .inr rfl, (each _).2 ⟨bs, completes, rfl⟩, Bool.false_or _⟩
  | not part, b => by
    simp only [kleene, leaves, truth, Verdict.admits_not_iff, admits_kleene_iff part,
      Bool.not_eq_eq_eq_not]
  | leaf l, b => by
    simp only [kleene, leaves, truth]
    constructor
    · intro admitted
      exact ⟨[b], .cons admitted .nil, rfl⟩
    · rintro ⟨bs, completes, rfl⟩
      cases completes with
      | cons admitted _ => exact admitted

/-- The Kleene values of several conditions admit exactly what completions of all of them give. -/
theorem admits_kleenes_iff : (parts : List Condition) → (ts : List Bool) →
    List.Forall₂ Verdict.Admits (kleenes value parts) ts ↔
      ∃ bs, Completes value (leavesList parts) bs ∧ truths parts bs = ts
  | [], ts => by
    simp only [kleenes, leavesList, truths, List.forall₂_nil_left_iff]
    constructor
    · rintro rfl
      exact ⟨[], .nil, rfl⟩
    · rintro ⟨_, _, rfl⟩
      rfl
  | part :: parts, ts => by
    have first := admits_kleene_iff part
    have rest := admits_kleenes_iff parts
    simp only [kleenes, leavesList, truths, List.forall₂_cons_left_iff, completes_append_iff]
    constructor
    · rintro ⟨t, ts, admitted, others, rfl⟩
      obtain ⟨front, completes, rfl⟩ := (first t).1 admitted
      obtain ⟨back, completesRest, rfl⟩ := (rest ts).1 others
      have length : part.leaves.length = front.length := List.Forall₂.length_eq completes
      refine ⟨front ++ back, ?_, ?_⟩
      · rw [length, List.take_left, List.drop_left]
        exact ⟨completes, completesRest⟩
      · rw [length, List.take_left, List.drop_left]
    · rintro ⟨bs, ⟨front, back⟩, rfl⟩
      exact ⟨_, _, (first _).2 ⟨_, front, rfl⟩, (rest _).2 ⟨_, back, rfl⟩, rfl⟩

end

variable [Engine]

/-- In every state that a session comes to, evaluation gives the Kleene value from the verdicts of
the leaves. -/
theorem result_evaluate_after (before : List Session.Operation) (look : String → Option Value)
    (c : Condition) :
    (c.evaluate look (Session.start.after before).caches.patterns).result =
      c.kleene (Leaf.verdict look) :=
  result_eq_kleene look (Session.sound_after before) c

/-- **Unknown means that the missing data could go either way.** Whatever a session did before,
evaluating a condition gives `yes` exactly if every completion of its leaves makes it true, `no`
exactly if every completion makes it false, and `unknown` exactly if some completion makes it true
and some makes it false. Leaves may be evaluated in any other state that a session comes to. -/
theorem evaluate_iff_completions (before : List Session.Operation)
    (moment : Leaf → List Session.Operation) (look : String → Option Value) (c : Condition) :
    let value (l : Leaf) := (l.evaluate look (Session.start.after (moment l)).caches.patterns).result
    let verdict := (c.evaluate look (Session.start.after before).caches.patterns).result
    (verdict = .yes ↔ ∀ bs, Completes value c.leaves bs → c.truth bs = true) ∧
    (verdict = .no ↔ ∀ bs, Completes value c.leaves bs → c.truth bs = false) ∧
    (verdict = .unknown ↔
      (∃ bs, Completes value c.leaves bs ∧ c.truth bs = true) ∧
        ∃ bs, Completes value c.leaves bs ∧ c.truth bs = false) := by
  intro value verdict
  have leaves : value = Leaf.verdict look := by
    funext l
    exact l.result_evaluate (Session.sound_after _) look
  have admits (b : Bool) :
      verdict.Admits b ↔ ∃ bs, Completes value c.leaves bs ∧ c.truth bs = b := by
    rw [show verdict = _ from result_evaluate_after before look c, leaves]
    exact admits_kleene_iff _ c b
  rw [Verdict.eq_yes_iff, Verdict.eq_no_iff, Verdict.eq_unknown_iff, admits, admits]
  refine ⟨?_, ?_, Iff.rfl⟩
  · constructor
    · intro all bs completes
      exact all _ ((admits _).2 ⟨bs, completes, rfl⟩)
    · intro all b admitted
      obtain ⟨bs, completes, rfl⟩ := (admits b).1 admitted
      exact all bs completes
  · constructor
    · intro none bs completes
      exact none _ ((admits _).2 ⟨bs, completes, rfl⟩)
    · intro none b admitted
      obtain ⟨bs, completes, rfl⟩ := (admits b).1 admitted
      exact none bs completes

end Condition

end Targeting

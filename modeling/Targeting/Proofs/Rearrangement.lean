import Targeting.Proofs.AnyCache
import Targeting.Proofs.Completion

/-!
# Order and repetition of parts

A conjunction is `no` if one of its parts is, and `yes` if all of them are, so of its parts'
verdicts only the set counts (`Verdict.foldl_and_congr`); a disjunction is its mirror image.
Conditions that have the same parts up to order and repetition, where the parts in turn may differ
in the order and repetition of theirs (`Condition.Rearranged`), therefore have the same verdict,
although evaluating them can look up different names (`Condition.decision_of_rearranged`).
-/

set_option autoImplicit false

namespace Targeting

namespace Verdict

theorem eq_of_iff {v w : Verdict} (yes : v = .yes ↔ w = .yes) (no : v = .no ↔ w = .no) :
    v = w := by
  cases v <;> cases w <;> simp at yes no ⊢

theorem foldl_and_eq_no_iff (v : Verdict) (vs : List Verdict) :
    vs.foldl and v = no ↔ v = no ∨ no ∈ vs := by
  induction vs generalizing v with
  | nil => simp
  | cons w vs ih =>
    rw [List.foldl_cons, ih, List.mem_cons, eq_comm (a := no) (b := w)]
    cases v <;> cases w <;> simp [and]

theorem foldl_and_eq_yes_iff (v : Verdict) (vs : List Verdict) :
    vs.foldl and v = yes ↔ v = yes ∧ ∀ w ∈ vs, w = yes := by
  induction vs generalizing v with
  | nil => simp
  | cons w vs ih =>
    rw [List.foldl_cons, ih, List.forall_mem_cons]
    cases v <;> cases w <;> simp [and]

/-- Of several verdicts only the set counts for their conjunction. -/
theorem foldl_and_congr {vs ws : List Verdict} (same : ∀ v, v ∈ vs ↔ v ∈ ws) (v : Verdict) :
    vs.foldl and v = ws.foldl and v := by
  apply eq_of_iff
  · rw [foldl_and_eq_yes_iff, foldl_and_eq_yes_iff]
    simp only [same]
  · rw [foldl_and_eq_no_iff, foldl_and_eq_no_iff, same]

theorem foldl_or_eq (v : Verdict) (vs : List Verdict) :
    vs.foldl or v = ((vs.map not).foldl and v.not).not := by
  induction vs generalizing v with
  | nil => simp
  | cons w vs ih => rw [List.foldl_cons, ih, not_or, List.map_cons, List.foldl_cons]

/-- Of several verdicts only the set counts for their disjunction. -/
theorem foldl_or_congr {vs ws : List Verdict} (same : ∀ v, v ∈ vs ↔ v ∈ ws) (v : Verdict) :
    vs.foldl or v = ws.foldl or v := by
  have negated : ∀ w, w ∈ vs.map not ↔ w ∈ ws.map not := by
    intro w
    simp only [List.mem_map, same]
  rw [foldl_or_eq, foldl_or_eq, foldl_and_congr negated]

end Verdict

namespace Condition

/-- Every condition of either list has a partner in the other one. -/
structure Paired (pairing : Condition → Condition → Prop) (cs ds : List Condition) : Prop where
  forth : ∀ c ∈ cs, ∃ d ∈ ds, pairing c d
  back : ∀ d ∈ ds, ∃ c ∈ cs, pairing c d

/-- The same condition up to the order and the repetition of parts, at every depth: the lists of
parts have, up to this relation, the same members. -/
inductive Rearranged : Condition → Condition → Prop
  | leaf (l : Leaf) : Rearranged (leaf l) (leaf l)
  | not {c d : Condition} (h : Rearranged c d) : Rearranged (not c) (not d)
  | and {cs ds : List Condition} {pairing : Condition → Condition → Prop}
    (related : ∀ c d, pairing c d → Rearranged c d) (paired : Paired pairing cs ds) :
    Rearranged (and cs) (and ds)
  | or {cs ds : List Condition} {pairing : Condition → Condition → Prop}
    (related : ∀ c d, pairing c d → Rearranged c d) (paired : Paired pairing cs ds) :
    Rearranged (or cs) (or ds)

/-- Lists with the same members are paired by equality. -/
theorem paired_of_mem_iff {cs ds : List Condition} (same : ∀ c, c ∈ cs ↔ c ∈ ds) :
    Paired (· = ·) cs ds where
  forth c member := ⟨c, (same c).1 member, rfl⟩
  back d member := ⟨d, (same d).2 member, rfl⟩

/-- A list is paired with itself by equality, and partners are in it. -/
theorem paired_self (cs : List Condition) : Paired (fun c d => c = d ∧ c ∈ cs) cs cs where
  forth c member := ⟨c, member, rfl, member⟩
  back c member := ⟨c, member, rfl, member⟩

/-- What partners have in common, the lists have in common. -/
theorem Paired.mem_map_iff {α : Type} {pairing : Condition → Condition → Prop}
    {cs ds : List Condition} (paired : Paired pairing cs ds) {f : Condition → α}
    (common : ∀ c d, pairing c d → f c = f d) (a : α) : a ∈ cs.map f ↔ a ∈ ds.map f := by
  rw [List.mem_map, List.mem_map]
  constructor
  · rintro ⟨c, member, rfl⟩
    obtain ⟨d, partner, pair⟩ := paired.forth c member
    exact ⟨d, partner, (common c d pair).symm⟩
  · rintro ⟨d, member, rfl⟩
    obtain ⟨c, partner, pair⟩ := paired.back d member
    exact ⟨c, partner, common c d pair⟩

theorem kleenes_eq_map (value : Leaf → Verdict) (parts : List Condition) :
    kleenes value parts = parts.map (kleene value) := by
  induction parts with
  | nil => rfl
  | cons part parts ih => rw [kleenes, ih, List.map_cons]

namespace Rearranged

-- The parts of a composite are related to themselves by induction, so equality pairs them.
mutual

protected theorem refl : (c : Condition) → Rearranged c c
  | .and parts => by
    refine .and ?_ (paired_self parts)
    rintro c d ⟨rfl, member⟩
    exact reflAll parts c member
  | .or parts => by
    refine .or ?_ (paired_self parts)
    rintro c d ⟨rfl, member⟩
    exact reflAll parts c member
  | .not part => .not (Rearranged.refl part)
  | .leaf l => .leaf l

theorem reflAll : (parts : List Condition) → ∀ c ∈ parts, Rearranged c c
  | part :: parts, c, member => by
    rcases List.mem_cons.1 member with here | later
    · rw [here]
      exact Rearranged.refl part
    · exact reflAll parts c later

end

/-- Whatever the leaves say, a rearranged condition has the same value. -/
theorem kleene_eq {c d : Condition} (h : Rearranged c d) (value : Leaf → Verdict) :
    c.kleene value = d.kleene value := by
  induction h with
  | leaf l => rfl
  | not _ ih => rw [kleene, kleene, ih]
  | and _ paired ih =>
    rw [kleene, kleene, kleenes_eq_map, kleenes_eq_map]
    exact Verdict.foldl_and_congr (paired.mem_map_iff ih) .yes
  | or _ paired ih =>
    rw [kleene, kleene, kleenes_eq_map, kleenes_eq_map]
    exact Verdict.foldl_or_congr (paired.mem_map_iff ih) .no

end Rearranged

section AnyEngine

variable [Engine]

/-- **Order and repetition of parts never change a decision.** Say one condition comes from another
by putting, at any composites and at any depth, the parts into another order, repeating parts or
leaving out repeated ones. On every source both have the same verdict: from whatever pattern cache
they start together, and also if each is evaluated at a moment of its own. -/
theorem decision_of_rearranged {c d : Condition} (h : Rearranged c d)
    (look : String → Option Value) :
    (∀ cache : PatternCache, (c.evaluate look cache).result = (d.evaluate look cache).result) ∧
    ∀ before after : List Session.Operation,
      (c.evaluate look (Session.start.after before).caches.patterns).result =
        (d.evaluate look (Session.start.after after).caches.patterns).result := by
  constructor
  · intro cache
    rw [result_eq_kleene_of_leaves, result_eq_kleene_of_leaves, h.kleene_eq]
  · intro before after
    rw [result_evaluate_after, result_evaluate_after, h.kleene_eq]

end AnyEngine

/-- The parts of a negated conjunction change places, one is repeated, and within another one
repeated part goes: someone from elsewhere is decided alike, although more names are looked up. -/
theorem reordered_rule_decides_alike :
    let country : Condition := .exact "country" (.text "NZ")
    let adult : Condition := .test "age" .ge (.number ⟨0x4032000000000000⟩)
    let tester : Condition := .test "plan" .regex (.text "^beta")
    let rule : Condition := .not (.and [country, .or [adult, tester, adult]])
    let other : Condition := .not (.and [.or [tester, adult], country, country])
    let user : Attributes := Table.empty.insert "country" (.text "AU") |>.insert "plan" (.text "pro")
    Rearranged rule other ∧
      (rule.evaluate user.find? .empty).result = (other.evaluate user.find? .empty).result ∧
      lookups (rule.evaluate user.find? .empty).events = ["country"] ∧
      lookups (other.evaluate user.find? .empty).events = ["plan", "age", "country"] := by
  intro country adult tester rule other user
  have tests : Rearranged (.or [adult, tester, adult]) (.or [tester, adult]) := by
    refine .or (fun c d (same : c = d) => same ▸ .refl c) (paired_of_mem_iff fun c => ?_)
    simp only [List.mem_cons, List.not_mem_nil, or_false]
    tauto
  have rearranged : Rearranged rule other := by
    refine .not (.and (fun _ _ related => related) ⟨?_, ?_⟩)
    · simp only [List.forall_mem_cons, List.not_mem_nil]
      exact ⟨⟨country, by simp, .refl _⟩, ⟨_, by simp, tests⟩, nofun⟩
    · simp only [List.forall_mem_cons]
      exact ⟨⟨_, by simp, tests⟩, ⟨country, by simp, .refl _⟩, ⟨country, by simp, .refl _⟩, nofun⟩
  obtain ⟨same, -⟩ := decision_of_rearranged rearranged user.find?
  exact ⟨rearranged, same .empty, by decide, by decide⟩

end Condition

end Targeting

import Targeting.Proofs.Interning

/-!
# Sharing is exact over whole runs

Two requests in a run get the same shared condition exactly if the conditions are equal and nothing
in between took them out of the table; and taking one out returns the handle of the last request
that nothing undid. The places of a run are counted from zero, and its answers are those of
`Session.answers`.
-/

set_option autoImplicit false

namespace Targeting

namespace Session

/-- The operations of a run between two places. -/
def between (ops : List Operation) (i j : Nat) : List Operation :=
  (ops.take j).drop (i + 1)

theorem mem_between {ops : List Operation} {i j : Nat} {op : Operation} :
    op ∈ between ops i j ↔ ∃ m, i < m ∧ m < j ∧ ops[m]? = some op := by
  rw [between, List.mem_iff_getElem?]
  constructor
  · rintro ⟨m, found⟩
    rw [List.getElem?_drop, List.getElem?_take] at found
    split at found
    · rename_i before
      exact ⟨i + 1 + m, by omega, before, found⟩
    · cases found
  · rintro ⟨m, behind, before, found⟩
    refine ⟨m - (i + 1), ?_⟩
    rw [List.getElem?_drop, List.getElem?_take, show i + 1 + (m - (i + 1)) = m by omega,
      if_pos before, found]

/-- What holds of the operations between two places holds at each place between them. -/
theorem forall_mem_between {ops : List Operation} {i j : Nat} {P : Operation → Prop} :
    (∀ op ∈ between ops i j, P op) ↔ ∀ m op, i < m → m < j → ops[m]? = some op → P op := by
  constructor
  · intro all m op behind before found
    exact all op (mem_between.2 ⟨m, behind, before, found⟩)
  · intro all op member
    obtain ⟨m, behind, before, found⟩ := mem_between.1 member
    exact all m op behind before found

/-- A run up to a place goes through every earlier place. -/
theorem take_eq_between {ops : List Operation} {i j : Nat} {op : Operation} (earlier : i < j)
    (found : ops[i]? = some op) : ops.take j = ops.take i ++ op :: between ops i j := by
  obtain ⟨inside, rfl⟩ := List.getElem?_eq_some_iff.1 found
  have split := List.take_append_drop (i + 1) (ops.take j)
  rw [List.take_take, Nat.min_eq_left earlier, List.take_succ_eq_append_getElem inside] at split
  rw [← split, List.append_assoc]
  rfl

/-- At place `i` a condition was shared, and before place `j` it was neither shared again nor taken
out. -/
def LastShared (ops : List Operation) (c : Condition) (i j : Nat) : Prop :=
  i < j ∧ ops[i]? = some (.intern c) ∧
    ∀ m op, i < m → m < j → ops[m]? = some op → ¬ op.Evicts c ∧ op ≠ .intern c

variable {ops : List Operation} {c : Condition} {i j : Nat}

/-- The last time stays the last if the operation at the next place leaves the condition alone. -/
theorem LastShared.succ (last : LastShared ops c i j)
    (alone : ∀ op, ops[j]? = some op → ¬ op.Evicts c ∧ op ≠ .intern c) :
    LastShared ops c i (j + 1) := by
  obtain ⟨earlier, shared, quiet⟩ := last
  refine ⟨by omega, shared, ?_⟩
  intro m op behind before found
  by_cases atLast : m = j
  · subst atLast
    exact alone op found
  · exact quiet m op behind (by omega) found

section AnyEngine

variable [Engine]

theorem after_conditions (s : Session) (ops : List Operation) :
    (s.after ops).caches.conditions = ops.foldl InternTable.update s.caches.conditions := by
  induction ops generalizing s with
  | nil => rfl
  | cons op ops ih => rw [after_cons, ih, step_conditions, List.foldl_cons]

/-- The table of a session is faithful whatever the session did. -/
theorem faithful_after (ops : List Operation) : (start.after ops).caches.conditions.Faithful := by
  refine after_induction (P := fun s => s.caches.conditions.Faithful) ?_ ?_ ops
  · intro s op faithful
    rw [step_conditions]
    exact faithful.update op
  · exact InternTable.faithful_empty

theorem answers_intern (found : ops[i]? = some (.intern c)) :
    (start.answers ops)[i]? =
      some (.shared ((start.after (ops.take i)).caches.conditions.intern c).1) := by
  rw [answers_getElem?, found]
  rfl

theorem answers_forget (found : ops[j]? = some (.forget c)) :
    (start.answers ops)[j]? =
      some (.forgotten ((start.after (ops.take j)).caches.conditions.table.find? c)) := by
  rw [answers_getElem?, found]
  rfl

/-- The table at a later place, from the place where a condition was shared. -/
theorem conditions_after_intern (earlier : i < j) (found : ops[i]? = some (.intern c)) :
    (start.after (ops.take j)).caches.conditions =
      (between ops i j).foldl InternTable.update
        ((start.after (ops.take i)).caches.conditions.update (.intern c)) := by
  rw [take_eq_between earlier found, after_append, after_cons, after_conditions, step_conditions]

/-- A condition that is bound at a place was shared before, and its handle is that of the last
time. -/
theorem exists_lastShared {h : Handle}
    (bound : (start.after (ops.take j)).caches.conditions.table.find? c = some h) :
    ∃ i, LastShared ops c i j ∧ (start.answers ops)[i]? = some (.shared h) := by
  induction j with
  | zero => cases bound
  | succ j ih =>
    cases here : ops[j]? with
    | none =>
      rw [List.take_add_one, here, Option.toList_none, List.append_nil] at bound
      obtain ⟨i, last, answer⟩ := ih bound
      have alone : ∀ op, ops[j]? = some op → ¬ op.Evicts c ∧ op ≠ .intern c := by simp [here]
      exact ⟨i, last.succ alone, answer⟩
    | some op =>
      rw [after_take_succ start here, step_conditions] at bound
      by_cases again : op = .intern c
      · subst again
        rw [InternTable.find?_update_intern] at bound
        cases bound
        refine ⟨j, ⟨Nat.lt_succ_self j, here, ?_⟩, answers_intern here⟩
        intro m op behind before
        omega
      · rcases InternTable.older_or_new bound with ⟨old, stays⟩ | ⟨new, -⟩
        · obtain ⟨i, last, answer⟩ := ih old
          have alone : ∀ other, ops[j]? = some other →
              ¬ other.Evicts c ∧ other ≠ .intern c := by
            intro other found
            rw [here] at found
            cases found
            exact ⟨stays, again⟩
          exact ⟨i, last.succ alone, answer⟩
        · exact absurd new again

/-- What is bound at a place is the handle of the last time that the condition was shared, unless it
was taken out since. -/
theorem find?_after_take_iff {h : Handle} :
    (start.after (ops.take j)).caches.conditions.table.find? c = some h ↔
      ∃ i, LastShared ops c i j ∧ (start.answers ops)[i]? = some (.shared h) := by
  constructor
  · exact exists_lastShared
  · rintro ⟨i, ⟨earlier, shared, quiet⟩, answer⟩
    rw [answers_intern shared] at answer
    cases answer
    rw [conditions_after_intern earlier shared]
    refine InternTable.find?_foldl_update (InternTable.find?_update_intern _ c) ?_
    rw [forall_mem_between]
    intro m op behind before found
    exact (quiet m op behind before found).1

/-- **Sharing is exact.** Of two requests in a run, both answered with a handle, the handles are the
same exactly if the conditions are equal and nothing in between took them out. And forgetting a
condition answers with the handle that the last request for it was given, unless it was taken out
since, and with none if there is no such request. -/
theorem sharing_exact (ops : List Operation) :
    (∀ (i j : Nat) (a b : Condition), i < j → ops[i]? = some (.intern a) →
      ops[j]? = some (.intern b) →
      ∃ h k : Handle, (start.answers ops)[i]? = some (.shared h) ∧
        (start.answers ops)[j]? = some (.shared k) ∧
        (h.serial = k.serial ↔
          a = b ∧ ∀ (m : Nat) (op : Operation), i < m → m < j → ops[m]? = some op →
            ¬ op.Evicts a)) ∧
    (∀ (j : Nat) (c : Condition), ops[j]? = some (.forget c) →
      ∃ h? : Option Handle, (start.answers ops)[j]? = some (.forgotten h?) ∧
        ∀ h : Handle, h? = some h ↔
          ∃ i, LastShared ops c i j ∧ (start.answers ops)[i]? = some (.shared h)) := by
  constructor
  · intro i j a b earlier first second
    refine ⟨_, _, answers_intern first, answers_intern second, ?_⟩
    rw [conditions_after_intern earlier first, (faithful_after _).serial_eq_iff, forall_mem_between]
  · intro j c forgotten
    exact ⟨_, answers_forget forgotten, fun h => find?_after_take_iff⟩

end AnyEngine

/-- A condition that is forgotten and shared again gets another handle; forgetting it answers with
the first. -/
theorem shared_anew_after_forget :
    let c : Condition := .leaf ⟨"plan", .present, .null⟩
    let ops : List Operation := [.intern c, .forget c, .intern c]
    ∃ h k : Handle, (start.answers ops)[0]? = some (.shared h) ∧
      (start.answers ops)[1]? = some (.forgotten (some h)) ∧
      (start.answers ops)[2]? = some (.shared k) ∧ h.serial ≠ k.serial := by
  intro c ops
  obtain ⟨requests, removals⟩ := sharing_exact ops
  obtain ⟨h, k, first, second, same⟩ := requests 0 2 c c (by decide) rfl rfl
  obtain ⟨h?, forgotten, last⟩ := removals 1 c rfl
  have taken : h? = some h := by
    refine (last h).2 ⟨0, ⟨by decide, rfl, ?_⟩, first⟩
    intro m op behind before
    omega
  have other : h.serial ≠ k.serial := by
    rw [ne_eq, same]
    rintro ⟨-, stays⟩
    exact stays 1 (.forget c) (by decide) (by decide) rfl (Or.inr rfl)
  subst taken
  exact ⟨h, k, first, forgotten, second, other⟩

end Session

end Targeting

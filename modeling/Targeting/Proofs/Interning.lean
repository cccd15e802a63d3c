import Targeting.Proofs.Run

/-!
# The table of shared conditions over a run

Every condition in the table is bound to a handle that holds it, and no two of them to the same
serial number (`InternTable.Faithful`). A binding lasts until the condition is forgotten or the
table is cleared (`find?_foldl_update`); what is bound later has a serial number that was not in use
before (`older_or_fresh`).
-/

set_option autoImplicit false

namespace Targeting

open Session

/-- Does an operation take a condition out of the shared ones? -/
def Session.Operation.Evicts (c : Condition) (op : Operation) : Prop :=
  op = .clear ∨ op = .forget c

namespace InternTable

variable {t : InternTable} {c : Condition}

/-- Keys, stored conditions and serial numbers fit together. -/
structure Faithful (t : InternTable) : Prop where
  holds : ∀ c h, t.table.find? c = some h → h.condition = c
  below : ∀ c h, t.table.find? c = some h → h.serial < t.next
  injective : ∀ c d h k, t.table.find? c = some h → t.table.find? d = some k →
    h.serial = k.serial → c = d

theorem intern_of_found {h : Handle} (found : t.table.find? c = some h) :
    t.intern c = (h, t, []) := by
  simp only [intern, found]

theorem intern_of_absent (absent : t.table.find? c = none) :
    t.intern c = (⟨t.next, c⟩, ⟨t.table.insert c ⟨t.next, c⟩, t.next + 1⟩, [.interned c]) := by
  simp only [intern, absent]

/-- What an operation does to the binding of a condition. -/
theorem find?_update (t : InternTable) (op : Operation) (c : Condition) :
    (t.update op).table.find? c =
      match op with
      | .intern d => if c = d then some (t.intern d).1 else t.table.find? c
      | .forget d => if c = d then none else t.table.find? c
      | .clear => none
      | _ => t.table.find? c := by
  cases op with
  | intern d =>
    simp only [update]
    cases held : t.table.find? d with
    | none => rw [intern_of_absent held, Table.find?_insert]
    | some h =>
      rw [intern_of_found held]
      split
      · rename_i same
        rw [same, held]
      · rfl
  | forget d => exact Table.find?_erase t.table d c
  | _ => rfl

/-- Serial numbers go on. -/
theorem next_le_update (t : InternTable) (op : Operation) : t.next ≤ (t.update op).next := by
  cases op with
  | intern d =>
    simp only [update]
    cases held : t.table.find? d with
    | none =>
      simp only [intern_of_absent held]
      exact Nat.le_succ _
    | some h => simp only [intern_of_found held, Nat.le_refl]
  | _ => exact Nat.le_refl _

/-- A condition is bound after it was shared, to the handle that was given out. -/
theorem find?_update_intern (t : InternTable) (c : Condition) :
    (t.update (.intern c)).table.find? c = some (t.intern c).1 := by
  rw [find?_update]
  exact if_pos rfl

/-- A binding after an operation was there before, and the operation left it, or it is new. -/
theorem older_or_new {op : Operation} {h : Handle} (bound : (t.update op).table.find? c = some h) :
    (t.table.find? c = some h ∧ ¬ op.Evicts c) ∨
      (op = .intern c ∧ h = ⟨t.next, c⟩ ∧ (t.update op).next = t.next + 1) := by
  cases op with
  | intern d =>
    have stays : ¬ (Operation.intern d).Evicts c := by simp [Operation.Evicts]
    by_cases same : c = d
    · subst same
      rw [find?_update_intern] at bound
      cases held : t.table.find? c with
      | none =>
        rw [intern_of_absent held] at bound
        cases bound
        exact Or.inr ⟨rfl, rfl, by simp only [update, intern_of_absent held]⟩
      | some k =>
        rw [intern_of_found held] at bound
        exact Or.inl ⟨bound, stays⟩
    · simp only [find?_update, if_neg same] at bound
      exact Or.inl ⟨bound, stays⟩
  | forget d =>
    simp only [find?_update] at bound
    split at bound
    · cases bound
    · rename_i other
      exact Or.inl ⟨bound, by simp [Operation.Evicts, Ne.symm other]⟩
  | clear => cases bound
  | _ => exact Or.inl ⟨bound, by simp [Operation.Evicts]⟩

/-- A binding lasts until the condition is taken out. -/
theorem find?_update_of_found {op : Operation} {h : Handle} (found : t.table.find? c = some h)
    (stays : ¬ op.Evicts c) : (t.update op).table.find? c = some h := by
  cases op with
  | intern d =>
    by_cases same : c = d
    · subst same
      rw [find?_update_intern, intern_of_found found]
    · simpa only [find?_update, if_neg same] using found
  | forget d =>
    have other : c ≠ d := by
      rintro rfl
      exact stays (Or.inr rfl)
    simpa only [find?_update, if_neg other] using found
  | clear => exact absurd (Or.inl rfl) stays
  | _ => exact found

theorem faithful_empty : Faithful empty where
  holds _ _ found := nomatch found
  below _ _ found := nomatch found
  injective _ _ _ _ found := nomatch found

/-- Every operation keeps the table faithful: a new serial number is above all that are in use. -/
theorem Faithful.update (faithful : t.Faithful) (op : Operation) : (t.update op).Faithful := by
  constructor
  · intro c h bound
    rcases older_or_new bound with ⟨old, -⟩ | ⟨-, rfl, -⟩
    · exact faithful.holds c h old
    · rfl
  · intro c h bound
    rcases older_or_new bound with ⟨old, -⟩ | ⟨-, rfl, next⟩
    · exact Nat.lt_of_lt_of_le (faithful.below c h old) (next_le_update t op)
    · rw [next]
      exact Nat.lt_succ_self _
  · intro c d h k boundC boundD same
    rcases older_or_new boundC with ⟨oldC, -⟩ | ⟨sharedC, rfl, -⟩
    · rcases older_or_new boundD with ⟨oldD, -⟩ | ⟨-, rfl, -⟩
      · exact faithful.injective c d h k oldC oldD same
      · exact absurd same (Nat.ne_of_lt (faithful.below c h oldC))
    · rcases older_or_new boundD with ⟨oldD, -⟩ | ⟨sharedD, -, -⟩
      · exact absurd same (Nat.ne_of_gt (faithful.below d k oldD))
      · rw [sharedC] at sharedD
        cases sharedD
        rfl

/-- What is shared for a condition is that condition. -/
theorem Faithful.intern_condition (faithful : t.Faithful) (c : Condition) :
    (t.intern c).1.condition = c := by
  cases held : t.table.find? c with
  | none => rw [intern_of_absent held]
  | some h =>
    rw [intern_of_found held]
    exact faithful.holds c h held

/-! ## Sequences of operations -/

theorem next_le_foldl_update (t : InternTable) (ops : List Operation) :
    t.next ≤ (ops.foldl InternTable.update t).next := by
  induction ops generalizing t with
  | nil => exact Nat.le_refl _
  | cons op ops ih => exact Nat.le_trans (next_le_update t op) (ih _)

/-- A binding after several operations was there before and none of them took it out, or its serial
number was not in use before. -/
theorem older_or_fresh {ops : List Operation} {h : Handle}
    (bound : (ops.foldl InternTable.update t).table.find? c = some h) :
    (t.table.find? c = some h ∧ ∀ op ∈ ops, ¬ op.Evicts c) ∨ t.next ≤ h.serial := by
  induction ops generalizing t with
  | nil => exact Or.inl ⟨bound, by simp⟩
  | cons op ops ih =>
    rcases ih bound with ⟨older, stay⟩ | fresh
    · rcases older_or_new older with ⟨old, stays⟩ | ⟨-, rfl, -⟩
      · exact Or.inl ⟨old, List.forall_mem_cons.2 ⟨stays, stay⟩⟩
      · exact Or.inr (Nat.le_refl _)
    · exact Or.inr (Nat.le_trans (next_le_update t op) fresh)

/-- A binding lasts as long as no operation takes the condition out. -/
theorem find?_foldl_update {ops : List Operation} {h : Handle}
    (found : t.table.find? c = some h) (stay : ∀ op ∈ ops, ¬ op.Evicts c) :
    (ops.foldl InternTable.update t).table.find? c = some h := by
  induction ops generalizing t with
  | nil => exact found
  | cons op ops ih =>
    obtain ⟨stays, stay⟩ := List.forall_mem_cons.1 stay
    exact ih (find?_update_of_found found stays) stay

/-- Sharing two conditions, some operations apart, gives one handle exactly if they are equal and
none of the operations takes them out. -/
theorem Faithful.serial_eq_iff (faithful : t.Faithful) (a b : Condition)
    (between : List Operation) :
    (t.intern a).1.serial =
        ((between.foldl InternTable.update (t.update (.intern a))).intern b).1.serial ↔
      a = b ∧ ∀ op ∈ between, ¬ op.Evicts a := by
  have first := find?_update_intern t a
  have kept := faithful.update (.intern a)
  have second := find?_update_intern
    (between.foldl InternTable.update (t.update (.intern a))) b
  constructor
  · intro same
    rcases older_or_new second with ⟨older, -⟩ | ⟨-, new, -⟩
    · rcases older_or_fresh older with ⟨old, stay⟩ | fresh
      · have equal := kept.injective a b _ _ first old same
        subst equal
        exact ⟨rfl, stay⟩
      · have := kept.below a _ first
        omega
    · have := kept.below a _ first
      have := next_le_foldl_update (t.update (.intern a)) between
      rw [new] at same
      simp only at same
      omega
  · rintro ⟨rfl, stay⟩
    rw [intern_of_found (find?_foldl_update first stay)]

end InternTable

end Targeting

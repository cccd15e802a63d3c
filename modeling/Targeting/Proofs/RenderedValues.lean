import Targeting.Proofs.Correspondence
import Targeting.Proofs.Rendering

/-!
# Expected values show in the text

A name is written as it is, so a text alone need not tell where a name ends. Beside a condition of
the same shape with the same names and operators it does not have to: both texts agree up to the
first value, a value is told from its text where the leaf ends (`Value.writeExpected_eq_iff`), and
behind it the texts go on with the next leaf. So two such conditions have the same text exactly if
their values are alike, leaf by leaf (`Condition.display_eq_iff_values_alike`).
-/

set_option autoImplicit false

namespace Targeting

variable {rest rest' : List Char}

/-- Alike to people: the same value, or both a NaN. -/
def Value.LooksLike (v w : Value) : Prop :=
  v = w ∨ v.IsNaN ∧ w.IsNaN

theorem Value.writeExpected_of_nan {v : Value} (nan : v.IsNaN) (rest : List Char) :
    v.writeExpected rest = "NaN".toList ++ rest := by
  cases v with
  | number x => rw [writeExpected_of_bare rfl, display, Binary64.write_plain_of_nan nan]
  | _ => cases nan

/-- **A value is told from its text** up to where its leaf ends, but for the NaNs. -/
theorem Value.writeExpected_eq_iff {v w : Value} :
    v.writeExpected ('\x7d' :: rest) = w.writeExpected ('\x7d' :: rest') ↔
      v.LooksLike w ∧ rest = rest' := by
  constructor
  · exact writeExpected_inj
  · rintro ⟨rfl | ⟨nan, nan'⟩, rfl⟩
    · rfl
    · rw [writeExpected_of_nan nan, writeExpected_of_nan nan']

/-- A text is not like a value of another kind. -/
theorem Value.not_looksLike_text {v : Value} (bare : v.asText? = none) (s : String) :
    ¬ v.LooksLike (text s) := by
  rintro (rfl | ⟨-, nan⟩)
  · cases bare
  · exact nan

namespace Leaf

/-- Leaves that differ in nothing but their values. -/
structure SameTest (l m : Leaf) : Prop where
  name : l.name = m.name
  operator : l.operator = m.operator

/-- Where nothing but the values may differ, the values and what follows tell the texts apart. -/
theorem SameTest.write_eq_iff {l m : Leaf} (h : l.SameTest m) :
    l.write rest = m.write rest' ↔ l.value.LooksLike m.value ∧ rest = rest' := by
  rw [write_eq, write_eq, h.name, h.operator]
  simp only [List.append_cancel_left_eq, List.cons.injEq, true_and]
  exact Value.writeExpected_eq_iff

end Leaf

/-- What is related one by one in two lists is so in front and behind, where the fronts are of one
length. -/
theorem forall₂_append_iff {α β : Type} {R : α → β → Prop} {xs xs' : List α} {ys ys' : List β}
    (length : xs.length = ys.length) :
    List.Forall₂ R (xs ++ xs') (ys ++ ys') ↔ List.Forall₂ R xs ys ∧ List.Forall₂ R xs' ys' := by
  induction xs generalizing ys with
  | nil =>
    cases ys with
    | nil => simp
    | cons y ys => cases length
  | cons x xs ih =>
    cases ys with
    | nil => cases length
    | cons y ys =>
      rw [List.cons_append, List.cons_append, List.forall₂_cons, List.forall₂_cons,
        ih (Nat.succ.inj length), and_assoc]

namespace Condition

-- Both texts are cut at the same places, since the shapes agree; the names cancel there, whatever
-- characters they have.
mutual

/-- **Where nothing but values may differ**, the texts of two conditions are the same exactly if the
values are alike and what follows is the same. -/
theorem write_eq_iff : {c d : Condition} → c.Corresponds Leaf.SameTest d →
    ∀ rest rest' : List Char, c.write rest = d.write rest' ↔
      List.Forall₂ (fun l m => l.value.LooksLike m.value) c.leaves d.leaves ∧ rest = rest'
  | .and _, _, .and parts, rest, rest' => by
    rw [write_and, write_and, List.append_cancel_left_eq, writeParts_eq_iff parts, List.cons.injEq,
      eq_self, true_and, leaves, leaves]
  | .or _, _, .or parts, rest, rest' => by
    rw [write_or, write_or, List.append_cancel_left_eq, writeParts_eq_iff parts, List.cons.injEq,
      eq_self, true_and, leaves, leaves]
  | .not _, _, .not part, rest, rest' => by
    rw [write_not, write_not, List.append_cancel_left_eq, write_eq_iff part, List.cons.injEq,
      eq_self, true_and, leaves, leaves]
  | .leaf _, _, .leaf same, rest, rest' => by
    rw [write_leaf, write_leaf, same.write_eq_iff, leaves, leaves, List.forall₂_cons]
    simp only [List.Forall₂.nil, and_true]

theorem writeParts_eq_iff : {cs ds : List Condition} →
    List.Forall₂ (Corresponds Leaf.SameTest) cs ds → ∀ rest rest' : List Char,
    writeParts cs rest = writeParts ds rest' ↔
      List.Forall₂ (fun l m => l.value.LooksLike m.value) (leavesList cs) (leavesList ds) ∧
        rest = rest'
  | [], _, .nil, rest, rest' => by
    rw [writeParts_nil, writeParts_nil]
    simp only [leavesList, List.Forall₂.nil, true_and]
  | _ :: _, _, .cons first others, rest, rest' => by
    rw [writeParts_cons, writeParts_cons, List.cons.injEq, List.cons.injEq, eq_self, eq_self,
      true_and, true_and, write_eq_iff first, writeParts_eq_iff others, leavesList, leavesList,
      forall₂_append_iff first.leaves.length_eq, and_assoc]

end

/-- **Conditions that differ only in values are told apart by their texts.** Of two conditions of
the same shape with the same names and operators, whatever characters the names have, the texts are
the same exactly if at every leaf the values are the same or both a NaN. So they differ where, at
some leaf, one has a number, a flag or null and the other the text that spells it. -/
theorem display_eq_iff_values_alike {c d : Condition} (h : c.Corresponds Leaf.SameTest d) :
    (c.display = d.display ↔
      List.Forall₂ (fun l m => l.value = m.value ∨ l.value.IsNaN ∧ m.value.IsNaN)
        c.leaves d.leaves) ∧
    ∀ l m, (l, m) ∈ c.leaves.zip d.leaves → l.value.asText? = none →
      m.value = .text l.value.display → c.display ≠ d.display := by
  have texts : c.display = d.display ↔
      List.Forall₂ (fun l m => l.value.LooksLike m.value) c.leaves d.leaves := by
    rw [display, display, String.ofList_inj, write_eq_iff h]
    exact and_iff_left rfl
  refine ⟨texts, ?_⟩
  intro l m pair bare spelled same
  have alike : l.value.LooksLike m.value := List.forall₂_zip (texts.1 same) pair
  rw [spelled] at alike
  exact Value.not_looksLike_text bare _ alike

/-- A name with an apostrophe and a brace does not blur the number and the text behind it, and NaNs
of two signs look alike. -/
theorem number_beside_its_digits :
    let rule (score bound : Value) : Condition :=
      .and [.exact "o'neil'\x7d" score, .not (.test "]\"" .ge bound)]
    let nan : Value := .number ⟨0x7ff8000000000000⟩
    let nan' : Value := .number ⟨0xfff8000000000000⟩
    (rule (.ofInt 1) nan).display ≠ (rule (.text "1") nan).display ∧
      (rule (.ofInt 1) nan).display = (rule (.ofInt 1) nan').display := by
  intro rule nan nan'
  have alike (score bound score' bound' : Value) :
      (rule score bound).Corresponds Leaf.SameTest (rule score' bound') :=
    .and (.cons (.leaf ⟨rfl, rfl⟩) (.cons (.not (.leaf ⟨rfl, rfl⟩)) .nil))
  constructor
  · have spelled : Value.text "1" = .text (Value.ofInt 1).display := by decide +kernel
    exact (display_eq_iff_values_alike (alike _ _ _ _)).2 _ _ List.mem_cons_self rfl spelled
  · refine (display_eq_iff_values_alike (alike _ _ _ _)).1.2 ?_
    exact .cons (.inl rfl) (.cons (.inr ⟨rfl, rfl⟩) .nil)

end Condition

end Targeting

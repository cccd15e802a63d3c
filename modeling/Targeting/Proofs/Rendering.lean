import Targeting.Condition.Display
import Targeting.Proofs.PlainNumber
import Targeting.Proofs.QuotedText

/-!
# Rendering is unambiguous

Where the text of a condition ends can be told from the text: a composite at its bracket, a leaf at
its brace, a quoted value at the quote that is not escaped, any other value at the brace, which none
of its characters is, and a name at the next apostrophe, if it has none itself. So what a writer
writes is read in one way, whatever follows it (`Condition.write_inj`), and conditions with the same
text are equal, if no name has an apostrophe and no value is a NaN
(`Condition.display_eq_iff_of_legible`).
-/

set_option autoImplicit false

namespace Targeting

variable {rest rest' : List Char}

/-- What ends at the first mark of a kind is read in one way. -/
theorem append_cons_inj {mark : Char} {front front' : List Char} (clear : mark ∉ front)
    (clear' : mark ∉ front') (same : front ++ mark :: rest = front' ++ mark :: rest') :
    front = front' ∧ rest = rest' := by
  induction front generalizing front' with
  | nil =>
    cases front' with
    | nil => exact ⟨rfl, (List.cons.inj same).2⟩
    | cons c _ =>
      have first : mark = c := (List.cons.inj same).1
      exact absurd (first ▸ List.mem_cons_self) clear'
  | cons c cs ih =>
    cases front' with
    | nil =>
      have first : c = mark := (List.cons.inj same).1
      exact absurd (first ▸ List.mem_cons_self) clear
    | cons d ds =>
      obtain ⟨first, later⟩ := List.cons.inj same
      rw [List.mem_cons, not_or] at clear clear'
      obtain ⟨others, behind⟩ := ih clear.2 clear'.2 later
      exact ⟨by rw [first, others], behind⟩

namespace Value

/-- Is the value a number that is none? -/
def IsNaN : Value → Prop
  | number x => x.isNaN = true
  | _ => False

variable {v w : Value}

/-- A value that is no text stands as it is. -/
theorem writeExpected_of_bare (bare : v.asText? = none) (rest : List Char) :
    v.writeExpected rest = v.display.toList ++ rest := by
  cases v with
  | text s => cases bare
  | _ => rfl

/-- Nothing but letters, digits, points and signs stands in a value that is no text. -/
theorem isBare_of_mem_display (bare : v.asText? = none) {c : Char}
    (mem : c ∈ v.display.toList) : isBare c = true := by
  cases v with
  | null =>
    have word : Value.null.display.toList.all isBare = true := by decide
    exact List.all_eq_true.1 word c mem
  | flag b =>
    have word : ∀ b : Bool, (flag b).display.toList.all isBare = true := by decide
    exact List.all_eq_true.1 (word b) c mem
  | number x => exact Binary64.isBare_of_mem_plain mem
  | text s => cases bare

/-- No mark of the grammar stands in a value that is no text. -/
theorem not_mem_display (bare : v.asText? = none) {mark : Char} (grammar : isBare mark = false) :
    mark ∉ v.display.toList := by
  intro mem
  rw [isBare_of_mem_display bare mem] at grammar
  cases grammar

/-- Values that are no texts are told from what stands for them, but for the NaNs. -/
theorem eq_of_display_eq (bare : v.asText? = none) (bare' : w.asText? = none)
    (same : v.display = w.display) : v = w ∨ v.IsNaN ∧ w.IsNaN := by
  have flags : ∀ b : Bool, (flag b).display.toList.head?.any Binary64.beginsPlain = false := by
    decide
  have null : Value.null.display.toList.head?.any Binary64.beginsPlain = false := by decide
  cases v with
  | text s => cases bare
  | null =>
    cases w with
    | text s => cases bare'
    | null => exact .inl rfl
    | flag b => cases b <;> exact absurd same (by decide)
    | number y => exact absurd same.symm (y.write_plain_ne null)
  | flag b =>
    cases w with
    | text s => cases bare'
    | null => cases b <;> exact absurd same (by decide)
    | flag b' =>
      have told : ∀ b b' : Bool, (flag b).display = (flag b').display → b = b' := by decide
      rw [told b b' same]
      exact .inl rfl
    | number y => exact absurd same.symm (y.write_plain_ne (flags b))
  | number x =>
    cases w with
    | text s => cases bare'
    | null => exact absurd same (x.write_plain_ne null)
    | flag b => exact absurd same (x.write_plain_ne (flags b))
    | number y =>
      rcases Binary64.write_plain_eq_iff.1 same with equal | nans
      · rw [equal]
        exact .inl rfl
      · exact .inr nans

theorem exists_text_or_bare (v : Value) : (∃ s, v = text s) ∨ v.asText? = none := by
  cases v with
  | text s => exact .inl ⟨s, rfl⟩
  | _ => exact .inr rfl

theorem writeExpected_text (s : String) (rest : List Char) :
    (text s).writeExpected rest = '"' :: (Text.escapeAll s.toList ++ '"' :: rest) := by
  simp [writeExpected, Text.quote]

/-- A value that is no text does not begin with a quote. -/
theorem writeExpected_ne_text (bare : v.asText? = none) (s : String) :
    v.writeExpected ('\x7d' :: rest) ≠ (text s).writeExpected rest' := by
  have clear : '"' ∉ v.display.toList := not_mem_display bare (by decide)
  rw [writeExpected_of_bare bare, writeExpected_text]
  cases begins : v.display.toList with
  | nil =>
    intro same
    cases same
  | cons c cs =>
    rw [begins, List.mem_cons, not_or] at clear
    intro same
    exact clear.1 (List.cons.inj same).1.symm

/-- **An expected value is told from its text**, but for the NaNs, and so is what follows it. -/
theorem writeExpected_inj
    (same : v.writeExpected ('\x7d' :: rest) = w.writeExpected ('\x7d' :: rest')) :
    (v = w ∨ v.IsNaN ∧ w.IsNaN) ∧ rest = rest' := by
  rcases v.exists_text_or_bare with ⟨s, rfl⟩ | bare
  · rcases w.exists_text_or_bare with ⟨t, rfl⟩ | bare'
    · obtain ⟨texts, behind⟩ := Text.quote_inj same
      rw [texts]
      exact ⟨.inl rfl, (List.cons.inj behind).2⟩
    · exact absurd same.symm (writeExpected_ne_text bare' s)
  · rcases w.exists_text_or_bare with ⟨t, rfl⟩ | bare'
    · exact absurd same (writeExpected_ne_text bare t)
    · rw [writeExpected_of_bare bare, writeExpected_of_bare bare'] at same
      obtain ⟨texts, behind⟩ := append_cons_inj (not_mem_display bare (by decide))
        (not_mem_display bare' (by decide)) same
      exact ⟨eq_of_display_eq bare bare' (String.toList_injective texts), behind⟩

end Value

/-- An operator is found by its word. -/
theorem Operator.find?_text (o : Operator) : every.find? (fun a => a.text == o.text) = some o := by
  cases o <;> rfl

theorem Operator.text_injective : Function.Injective Operator.text := by
  intro a b same
  have found := a.find?_text
  rw [same, b.find?_text] at found
  exact (Option.some.inj found).symm

/-- No word for an operator has an apostrophe. -/
theorem Operator.not_mem_text (o : Operator) : '\'' ∉ o.text.toList := by
  have letters : every.all (fun o => o.text.toList.all (· != '\'')) = true := by decide
  have word := List.all_eq_true.1 letters o (List.mem_of_find?_eq_some o.find?_text)
  intro mem
  exact absurd (List.all_eq_true.1 word '\'' mem) (by decide)

namespace Leaf

/-- A leaf whose text tells which it is: its name has no apostrophe, and it does not expect a NaN. -/
structure Legible (l : Leaf) : Prop where
  name : '\'' ∉ l.name.toList
  value : ¬ l.value.IsNaN

/-- The parts of a leaf's text, each up to where it ends. -/
theorem write_eq (l : Leaf) (rest : List Char) :
    l.write rest = "\x7bname='".toList ++ (l.name.toList ++ '\'' ::
      (", match='".toList ++ (l.operator.text.toList ++ '\'' ::
        (", value=".toList ++ l.value.writeExpected ('\x7d' :: rest))))) := by
  show "\x7bname='".toList ++ l.name.toList ++ ('\'' :: ", match='".toList) ++
    l.operator.text.toList ++ ('\'' :: ", value=".toList) ++
      l.value.writeExpected ('\x7d' :: rest) = _
  simp only [List.append_assoc, List.cons_append]

/-- **A leaf is told from its text**, and so is what follows it. -/
theorem write_inj {l m : Leaf} (legible : l.Legible) (legible' : m.Legible)
    (same : l.write rest = m.write rest') : l = m ∧ rest = rest' := by
  rw [write_eq, write_eq, List.append_cancel_left_eq] at same
  obtain ⟨names, same⟩ := append_cons_inj legible.name legible'.name same
  rw [List.append_cancel_left_eq] at same
  obtain ⟨operators, same⟩ :=
    append_cons_inj l.operator.not_mem_text m.operator.not_mem_text same
  rw [List.append_cancel_left_eq] at same
  obtain ⟨values | ⟨nan, -⟩, behind⟩ := Value.writeExpected_inj same
  · refine ⟨?_, behind⟩
    cases l
    cases m
    rw [mk.injEq]
    exact ⟨String.toList_injective names,
      Operator.text_injective (String.toList_injective operators), values⟩
  · exact absurd nan legible.value

end Leaf

namespace Condition

/-- How the text of a condition begins, which tells its kind. -/
def opening : Condition → List Char
  | and _ => ['[', 'a']
  | or _ => ['[', 'o']
  | not _ => ['[', 'n']
  | leaf _ => ['\x7b', 'n']

theorem take_write (c : Condition) (rest : List Char) : (c.write rest).take 2 = c.opening := by
  cases c with
  | leaf l =>
    rw [write_leaf, Leaf.write_eq]
    rfl
  | _ => rfl

/-- Conditions of two kinds have different texts. -/
theorem opening_eq {c d : Condition} (same : c.write rest = d.write rest') :
    c.opening = d.opening := by
  have begins := congrArg (List.take 2) same
  rw [take_write, take_write] at begins
  exact begins

-- A part ends where its own text says, so that the parts are told one after the other; the bracket
-- that closes a composite is no comma, so that their number is told too.
mutual

/-- **A condition is told from its text**, and so is what follows it. -/
theorem write_inj : (c d : Condition) → (∀ l ∈ c.leaves, l.Legible) →
    (∀ l ∈ d.leaves, l.Legible) → ∀ {rest rest' : List Char}, c.write rest = d.write rest' →
    c = d ∧ rest = rest'
  | and xs, d, legible, legible', rest, rest', same => by
    have kind := opening_eq same
    cases d with
    | and ys =>
      rw [write_and, write_and, List.append_cancel_left_eq] at same
      obtain ⟨parts, behind⟩ := writeParts_inj xs ys legible legible' same
      rw [parts]
      exact ⟨rfl, behind⟩
    | _ => cases kind
  | or xs, d, legible, legible', rest, rest', same => by
    have kind := opening_eq same
    cases d with
    | or ys =>
      rw [write_or, write_or, List.append_cancel_left_eq] at same
      obtain ⟨parts, behind⟩ := writeParts_inj xs ys legible legible' same
      rw [parts]
      exact ⟨rfl, behind⟩
    | _ => cases kind
  | not x, d, legible, legible', rest, rest', same => by
    have kind := opening_eq same
    cases d with
    | not y =>
      rw [write_not, write_not, List.append_cancel_left_eq] at same
      obtain ⟨part, behind⟩ := write_inj x y legible legible' same
      rw [part]
      exact ⟨rfl, (List.cons.inj behind).2⟩
    | _ => cases kind
  | leaf l, d, legible, legible', rest, rest', same => by
    have kind := opening_eq same
    cases d with
    | leaf m =>
      rw [write_leaf, write_leaf] at same
      rw [leaves, List.forall_mem_singleton] at legible legible'
      obtain ⟨leaves, behind⟩ := Leaf.write_inj legible legible' same
      rw [leaves]
      exact ⟨rfl, behind⟩
    | _ => cases kind

theorem writeParts_inj : (xs ys : List Condition) → (∀ l ∈ leavesList xs, l.Legible) →
    (∀ l ∈ leavesList ys, l.Legible) → ∀ {rest rest' : List Char},
    writeParts xs (']' :: rest) = writeParts ys (']' :: rest') → xs = ys ∧ rest = rest'
  | [], ys, _, _, rest, rest', same => by
    cases ys with
    | nil =>
      rw [writeParts_nil, writeParts_nil] at same
      exact ⟨rfl, (List.cons.inj same).2⟩
    | cons y ys => cases same
  | x :: xs, ys, legible, legible', rest, rest', same => by
    cases ys with
    | nil => cases same
    | cons y ys =>
      rw [leavesList, List.forall_mem_append] at legible legible'
      rw [writeParts_cons, writeParts_cons] at same
      obtain ⟨first, others⟩ :=
        write_inj x y legible.1 legible'.1 (List.cons.inj (List.cons.inj same).2).2
      obtain ⟨parts, behind⟩ := writeParts_inj xs ys legible.2 legible'.2 others
      rw [first, parts]
      exact ⟨rfl, behind⟩

end

/-- **Rendering is unambiguous.** Two conditions in which no name has an apostrophe and no value is a
NaN have the same text exactly if they are the same, whatever characters their texts hold. -/
theorem display_eq_iff_of_legible (c d : Condition)
    (legible : ∀ l ∈ c.leaves, l.Legible) (legible' : ∀ l ∈ d.leaves, l.Legible) :
    c.display = d.display ↔ c = d := by
  constructor
  · intro same
    have texts : c.write [] = d.write [] := by
      rw [display, display] at same
      exact String.ofList_injective same
    exact (write_inj c d legible legible' texts).1
  · rintro rfl
    rfl

/-- A text that spells the end of its leaf and the beginning of another is not taken for two
leaves. -/
theorem forged_leaf_told_apart :
    let forged : Condition :=
      .and [.exact "a" (.text "b\"\x7d, \x7bname='c', match='exact', value=\"d")]
    let genuine : Condition := .and [.exact "a" (.text "b"), .exact "c" (.text "d")]
    (∀ l ∈ forged.leaves, l.Legible) ∧ (∀ l ∈ genuine.leaves, l.Legible) ∧
      forged.display ≠ genuine.display := by
  intro forged genuine
  have legible : ∀ l ∈ forged.leaves, l.Legible :=
    List.forall_mem_singleton.2 ⟨by decide, id⟩
  have legible' : ∀ l ∈ genuine.leaves, l.Legible :=
    List.forall_mem_cons.2 ⟨⟨by decide, id⟩, List.forall_mem_singleton.2 ⟨by decide, id⟩⟩
  refine ⟨legible, legible', ?_⟩
  rw [ne_eq, display_eq_iff_of_legible forged genuine legible legible']
  intro same
  have parts := congrArg List.length (and.inj same)
  cases parts

end Condition

end Targeting

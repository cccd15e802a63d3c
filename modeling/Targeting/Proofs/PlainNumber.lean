import Targeting.Proofs.NumberText

/-!
# The plain text of a number tells which number it is

Plain notation has no exponents, so a text is taken apart into the digits in front of the point and
those behind it, in one way only (`Spelling.text_inj`). The parts stand for the decimal that was
written, and that rounds to the magnitude it was made for. With the sign, and the word for an infinity
that begins with no digit, a text belongs to one number (`Binary64.write_plain_eq_iff`); only the NaNs
share theirs.
-/

set_option autoImplicit false

namespace Targeting

open Json Json.Token

/-- A character of a value that is no text: a letter, a digit, a point or a sign. -/
def isBare (c : Char) : Bool :=
  c.isAlphanum || c == '.' || c == '-' || c == '+'

theorem isBare_of_isDigit {c : Char} (digit : c.isDigit = true) : isBare c = true := by
  simp [isBare, Char.isAlphanum, digit]

namespace Spelling

variable {s t : Spelling}

/-- A written number begins with a digit. -/
theorem exists_text_eq_cons (proper : s.Proper) :
    ∃ c cs, s.text = c :: cs ∧ c.isDigit = true := by
  obtain ⟨c, cs, whole⟩ := List.exists_cons_of_ne_nil proper.whole_ne_nil
  refine ⟨c, cs ++ (s.fractionText ++ s.exponentText), ?_, ?_⟩
  · rw [text, whole]
    rfl
  · exact proper.whole_digits c (whole ▸ List.mem_cons_self)

/-- Nothing but letters, digits, points and signs stands in a written number. -/
theorem isBare_of_mem_text (proper : s.Proper) {c : Char} (mem : c ∈ s.text) :
    isBare c = true := by
  rw [text, List.mem_append, List.mem_append] at mem
  rcases mem with front | fraction | exponent
  · exact isBare_of_isDigit (proper.whole_digits c front)
  · unfold fractionText at fraction
    split at fraction
    · cases fraction
    · rcases List.mem_cons.1 fraction with rfl | digit
      · rfl
      · exact isBare_of_isDigit (proper.decimals_digits c digit)
  · unfold exponentText at exponent
    split at exponent
    · cases exponent
    · rcases List.mem_cons.1 exponent with rfl | rest
      · rfl
      · rcases List.mem_cons.1 rest with sign | digit
        · rw [sign]
          split <;> rfl
        · exact isBare_of_isDigit (isDigit_of_mem_toDigits digit)

end Spelling

namespace Layout

section Positional

variable {digits : List Char} (inside : ∀ c ∈ digits, c.isDigit = true) (nonempty : digits ≠ [])
  (leading : digits.head? ≠ some '0')
include inside nonempty leading

/-- The point would fall behind the digits, and there is none. -/
theorem writes_whole (n : Nat) :
    Spelling.Writes ⟨digits ++ zeros n, [], none⟩ (digits ++ zeros n)
      (Binary64.decimalPattern (natOf digits) n) where
  proper := by
    refine ⟨isDigit_of_mem_append inside fun _ => isDigit_of_mem_zeros, ?_, ?_, ?_⟩
    · simp [nonempty]
    · intro zero
      rw [List.head?_append_of_ne_nil _ nonempty] at zero
      exact absurd zero leading
    · intro c mem
      cases mem
  text := by simp [Spelling.text, Spelling.fractionText, Spelling.exponentText]
  pattern := by
    have shifted := Binary64.decimalPattern_shift (natOf digits) n n
    rw [Int.sub_self, ← natOf_append_zeros] at shifted
    simpa [Spelling.coefficient, Spelling.power] using shifted

/-- A number in plain notation. -/
theorem exists_writes_positional (point : Int) :
    ∃ s : Spelling, s.Writes (positionalDigits plain.wholeEnd.toList digits point)
      (Binary64.decimalPattern (natOf digits) (point - digits.length)) := by
  have wholeEnd : plain.wholeEnd.toList = [] := rfl
  refine positionalDigits_cases (P := fun text pattern => ∃ s : Spelling, s.Writes text pattern)
    (fun n => ?_) (fun n => ?_) (fun n first last => ?_) point
  · obtain ⟨s, spells⟩ := exists_spells_before inside nonempty n
    exact ⟨s, spells.toWrites⟩
  · rw [wholeEnd, List.append_nil]
    exact ⟨_, writes_whole inside nonempty leading n⟩
  · obtain ⟨s, spells⟩ := exists_spells_between inside nonempty leading first last
    exact ⟨s, spells.toWrites⟩

end Positional

/-- Every decimal is written as its digits with the point among them. -/
theorem exists_writes_plain (d : Decimal) :
    ∃ s : Spelling, s.Writes (plain.digitsOf d) d.pattern := by
  have inside : ∀ c ∈ Nat.toDigits 10 d.coefficient, c.isDigit = true :=
    fun c mem => isDigit_of_mem_toDigits mem
  unfold digitsOf
  dsimp only
  split
  · rename_i zero
    have pattern : d.pattern = 0 := by simp [Decimal.pattern, Binary64.decimalPattern, zero]
    refine ⟨⟨['0'], [], none⟩, ⟨isDigit_of_mem_zero, by simp, fun _ => rfl, by simp⟩, ?_, ?_⟩
    · rw [zero]
      rfl
    · rw [pattern]
      decide
  · rename_i positive
    have writes := exists_writes_positional inside Nat.toDigits_ne_nil
      (head?_toDigits (Nat.pos_of_ne_zero positive))
      ((Nat.toDigits 10 d.coefficient).length + d.exponent)
    rw [natOf_toDigits, add_sub_cancel_left] at writes
    exact writes

end Layout

namespace Binary64

/-- The plain text of a number without its sign. -/
def plainDigits (x : Binary64) : List Char :=
  if x.isFinite then Layout.plain.digitsOf (Decimal.shortest Layout.plain.tie x)
  else Layout.plain.infinityWord.toList

variable {x y : Binary64}

theorem toList_plain (number : x.isNaN = false) :
    (Layout.plain.write x).toList = signText x.isNegative ++ x.plainDigits :=
  toList_write Layout.plain number

theorem exists_writes_plainDigits (finite : x.isFinite = true) :
    ∃ s : Spelling, s.Writes x.plainDigits x.unsigned := by
  obtain ⟨s, writes⟩ := Layout.exists_writes_plain (Decimal.shortest Layout.plain.tie x)
  rw [Decimal.pattern_shortest _ finite] at writes
  rw [plainDigits, if_pos finite]
  exact ⟨s, writes⟩

theorem plainDigits_of_infinite (infinite : x.isFinite = false) :
    x.plainDigits = ['i', 'n', 'f'] := by
  rw [plainDigits, infinite]
  rfl

/-- Behind the sign of a number stands a digit or the word for an infinity. -/
theorem exists_plainDigits_eq_cons (x : Binary64) :
    ∃ c cs, x.plainDigits = c :: cs ∧ if x.isFinite then c.isDigit = true else c = 'i' := by
  cases finite : x.isFinite with
  | true =>
    obtain ⟨s, writes⟩ := exists_writes_plainDigits finite
    obtain ⟨c, cs, text, digit⟩ := s.exists_text_eq_cons writes.proper
    exact ⟨c, cs, writes.text ▸ text, digit⟩
  | false => exact ⟨_, _, plainDigits_of_infinite finite, rfl⟩

/-- The sign of a number is told from what stands behind it. -/
theorem signText_inj {negative negative' : Bool}
    (same : signText negative ++ x.plainDigits = signText negative' ++ y.plainDigits) :
    negative = negative' ∧ x.plainDigits = y.plainDigits := by
  have unsigned (z : Binary64) (cs : List Char) : z.plainDigits ≠ '-' :: cs := by
    obtain ⟨d, ds, digits, first⟩ := z.exists_plainDigits_eq_cons
    rw [digits]
    rintro same
    cases same
    cases finite : z.isFinite <;> simp [finite] at first
  cases negative <;> cases negative' <;> simp only [signText] at same
  · exact ⟨rfl, same⟩
  · exact absurd same (unsigned x _)
  · exact absurd same.symm (unsigned y _)
  · exact ⟨rfl, (List.cons.inj same).2⟩

/-- An infinity has the largest exponent and no fraction. -/
theorem unsigned_of_infinite (number : x.isNaN = false) (infinite : x.isFinite = false) :
    x.unsigned = infinityBits := by
  have exponent : x.biased = 2047 := by simpa [isFinite] using infinite
  have fraction : x.fraction = 0 := by simpa [isNaN, exponent] using number
  rw [unsigned_eq_fields, exponent, fraction, Nat.zero_add, infinityBits]

/-- No infinity has the digits of a finite number. -/
theorem isFinite_eq_of_plainDigits_eq (same : x.plainDigits = y.plainDigits) :
    x.isFinite = y.isFinite := by
  obtain ⟨c, cs, digits, first⟩ := x.exists_plainDigits_eq_cons
  obtain ⟨d, ds, digits', first'⟩ := y.exists_plainDigits_eq_cons
  rw [same, digits'] at digits
  obtain rfl : d = c := (List.cons.inj digits).1
  have word : 'i'.isDigit ≠ true := by decide
  cases finite : x.isFinite with
  | true =>
    cases finite' : y.isFinite with
    | true => rfl
    | false =>
      rw [finite, if_pos rfl] at first
      rw [finite', if_neg Bool.false_ne_true] at first'
      exact absurd (first' ▸ first) word
  | false =>
    cases finite' : y.isFinite with
    | true =>
      rw [finite, if_neg Bool.false_ne_true] at first
      rw [finite', if_pos rfl] at first'
      exact absurd (first ▸ first') word
    | false => rfl

/-- The magnitude of a number is told from its plain text. -/
theorem unsigned_eq_of_plainDigits_eq (number : x.isNaN = false) (number' : y.isNaN = false)
    (same : x.plainDigits = y.plainDigits) : x.unsigned = y.unsigned := by
  have kinds := isFinite_eq_of_plainDigits_eq same
  cases finite : x.isFinite with
  | true =>
    obtain ⟨s, writes⟩ := exists_writes_plainDigits finite
    obtain ⟨t, writes'⟩ := exists_writes_plainDigits (kinds ▸ finite)
    have parts : s = t := by
      refine Spelling.text_inj writes.proper writes'.proper ?_
      rw [writes.text, writes'.text, same]
    rw [← writes.pattern, ← writes'.pattern, parts]
  | false =>
    rw [unsigned_of_infinite number finite, unsigned_of_infinite number' (kinds ▸ finite)]

/-- Numbers that are no NaN are told from their plain texts. -/
theorem write_plain_inj (number : x.isNaN = false) (number' : y.isNaN = false)
    (same : Layout.plain.write x = Layout.plain.write y) : x = y := by
  have texts := congrArg String.toList same
  rw [toList_plain number, toList_plain number'] at texts
  obtain ⟨sign, digits⟩ := signText_inj texts
  rw [← x.withSign_unsigned, ← y.withSign_unsigned, sign,
    unsigned_eq_of_plainDigits_eq number number' digits]

theorem write_plain_of_nan (nan : x.isNaN = true) : Layout.plain.write x = "NaN" := by
  rw [Layout.write, if_pos nan]
  rfl

/-- How the plain text of a number begins. -/
theorem exists_plain_eq_cons (x : Binary64) :
    ∃ c cs, (Layout.plain.write x).toList = c :: cs ∧
      if x.isNaN then c = 'N' else c.isDigit = true ∨ c ∈ ['-', 'i'] := by
  cases number : x.isNaN with
  | true =>
    rw [write_plain_of_nan number]
    exact ⟨_, _, rfl, rfl⟩
  | false =>
    rw [toList_plain number]
    cases x.isNegative with
    | true => exact ⟨_, _, rfl, .inr (by decide)⟩
    | false =>
      obtain ⟨c, cs, digits, first⟩ := x.exists_plainDigits_eq_cons
      refine ⟨c, cs, digits, ?_⟩
      cases finite : x.isFinite with
      | true =>
        rw [finite, if_pos rfl] at first
        exact .inl first
      | false =>
        rw [finite] at first
        cases first
        exact .inr (by decide)

/-- No number has the text of a NaN. -/
theorem isNaN_eq_of_write_plain_eq (same : Layout.plain.write x = Layout.plain.write y) :
    x.isNaN = y.isNaN := by
  obtain ⟨c, cs, text, first⟩ := x.exists_plain_eq_cons
  obtain ⟨d, ds, text', first'⟩ := y.exists_plain_eq_cons
  rw [same, text'] at text
  obtain rfl : d = c := (List.cons.inj text).1
  have word : ¬('N'.isDigit = true ∨ 'N' ∈ ['-', 'i']) := by decide
  cases nan : x.isNaN with
  | true =>
    cases nan' : y.isNaN with
    | true => rfl
    | false =>
      rw [nan, if_pos rfl] at first
      rw [nan', if_neg Bool.false_ne_true] at first'
      exact absurd (first ▸ first') word
  | false =>
    cases nan' : y.isNaN with
    | true =>
      rw [nan, if_neg Bool.false_ne_true] at first
      rw [nan', if_pos rfl] at first'
      exact absurd (first' ▸ first) word
    | false => rfl

/-- **Numbers are told from their plain texts**, but for the NaNs, which share one. -/
theorem write_plain_eq_iff :
    Layout.plain.write x = Layout.plain.write y ↔ x = y ∨ x.isNaN = true ∧ y.isNaN = true := by
  constructor
  · intro same
    have kinds := isNaN_eq_of_write_plain_eq same
    cases nan : x.isNaN with
    | true => exact .inr ⟨rfl, kinds ▸ nan⟩
    | false => exact .inl (write_plain_inj nan (kinds ▸ nan) same)
  · rintro (rfl | ⟨nan, nan'⟩)
    · rfl
    · rw [write_plain_of_nan nan, write_plain_of_nan nan']

/-- Nothing but letters, digits, points and signs stands in the plain text of a number. -/
theorem isBare_of_mem_plain {c : Char} (mem : c ∈ (Layout.plain.write x).toList) :
    isBare c = true := by
  cases number : x.isNaN with
  | true =>
    rw [write_plain_of_nan number] at mem
    have word : "NaN".toList.all isBare = true := by decide
    exact List.all_eq_true.1 word c mem
  | false =>
    rw [toList_plain number, List.mem_append] at mem
    rcases mem with sign | digits
    · cases negative : x.isNegative with
      | true =>
        rw [negative, signText, if_pos rfl, List.mem_singleton] at sign
        rw [sign]
        rfl
      | false =>
        rw [negative] at sign
        cases sign
    · cases finite : x.isFinite with
      | true =>
        obtain ⟨s, writes⟩ := exists_writes_plainDigits finite
        rw [← writes.text] at digits
        exact s.isBare_of_mem_text writes.proper digits
      | false =>
        rw [plainDigits_of_infinite finite] at digits
        have word : ['i', 'n', 'f'].all isBare = true := by decide
        exact List.all_eq_true.1 word c digits

/-- Can a character begin the plain text of a number? -/
def beginsPlain (c : Char) : Bool :=
  c.isDigit || c == '-' || c == 'i' || c == 'N'

/-- What begins with no such character is not the plain text of a number. -/
theorem write_plain_ne (x : Binary64) {word : String}
    (other : word.toList.head?.any beginsPlain = false) : Layout.plain.write x ≠ word := by
  rintro rfl
  obtain ⟨c, cs, text, first⟩ := x.exists_plain_eq_cons
  have begins : beginsPlain c = true := by
    cases nan : x.isNaN with
    | true =>
      rw [nan, if_pos rfl] at first
      rw [first]
      rfl
    | false =>
      rw [nan, if_neg Bool.false_ne_true, List.mem_cons, List.mem_singleton] at first
      rcases first with digit | rfl | rfl
      · rw [beginsPlain, digit]
        rfl
      · rfl
      · rfl
  rw [text, List.head?_cons, Option.any_some, begins] at other
  cases other

end Binary64

end Targeting

import Mathlib.Data.List.Basic
import Targeting.Json.Token
import Targeting.Json.Writer
import Targeting.Proofs.NumberReading

/-!
# The text of a number is read as a number

A written number is a run of digits, perhaps a fraction, perhaps an exponent (`Spelling`). The
reader takes such a text apart into the same three parts, whatever stands behind it that cannot go
on a number (`Spelling.unsigned?_text`), and the parts stand for the decimal that was written
(`Layout.exists_spells`), which rounds to the number it was made for. The reader does not round it
just so: with few digits and a small power of ten it reads the number that was written
(`Json.Number.readAs_real_of_short`), else perhaps one beside it, but always a number
(`Json.Number.exists_readAs`). Integers are read as themselves.
-/

set_option autoImplicit false

namespace Targeting

open Json Json.Token

theorem takeWhile_isDigit {digits rest : List Char} (inside : ∀ c ∈ digits, c.isDigit = true)
    (boundary : ∀ c ∈ rest.head?, c.isDigit = false) :
    (digits ++ rest).takeWhile Char.isDigit = digits := by
  rw [List.takeWhile_append_of_pos inside]
  cases rest with
  | nil => exact List.append_nil digits
  | cons c rest => simp [boundary c rfl]

theorem dropWhile_isDigit {digits rest : List Char} (inside : ∀ c ∈ digits, c.isDigit = true)
    (boundary : ∀ c ∈ rest.head?, c.isDigit = false) :
    (digits ++ rest).dropWhile Char.isDigit = rest := by
  rw [List.dropWhile_append_of_pos inside]
  cases rest with
  | nil => rfl
  | cons c rest => simp [boundary c rfl]

theorem isDigit_of_mem_toDigits {n : Nat} {c : Char} (mem : c ∈ Nat.toDigits 10 n) :
    c.isDigit = true :=
  Nat.isDigit_of_mem_toDigits (by decide) (by decide) mem

theorem natOf_toDigits (n : Nat) : natOf (Nat.toDigits 10 n) = n :=
  Nat.ofDigitChars_ten_toDigits

/-- The first digit of a positive number is not zero. -/
theorem head?_toDigits {n : Nat} (positive : 0 < n) : (Nat.toDigits 10 n).head? ≠ some '0' := by
  induction n using Nat.strongRecOn with
  | ind n ih =>
    by_cases single : n < 10
    · have each : ∀ d : Fin 10, 0 < d.val → [d.val.digitChar].head? ≠ some '0' := by decide
      rw [Nat.toDigits_of_lt_base single]
      exact each ⟨n, single⟩ positive
    · rw [Nat.toDigits_of_base_le (by decide) (by omega),
        List.head?_append_of_ne_nil _ Nat.toDigits_ne_nil]
      exact ih (n / 10) (by omega) (by omega)

/-- Nothing follows that could go on a number. -/
def EndsNumber (rest : List Char) : Prop :=
  ∀ c ∈ rest.head?, c.isDigit = false ∧ c ≠ '.' ∧ c ≠ 'e' ∧ c ≠ 'E'

theorem endsNumber_nil : EndsNumber [] := by
  intro c head
  cases head

theorem endsNumber_cons {c : Char} (rest : List Char)
    (mark : c.isDigit = false ∧ c ≠ '.' ∧ c ≠ 'e' ∧ c ≠ 'E') : EndsNumber (c :: rest) := by
  intro d head
  cases head
  exact mark

/-- The parts of a number's text behind the sign. -/
structure Spelling where
  /-- The digits in front. -/
  whole : List Char
  /-- The digits behind the point; with none there is no point. -/
  decimals : List Char
  /-- The power of ten behind the digits, if it is written. -/
  exponent : Option Int

namespace Spelling

/-- The point and the digits behind it. -/
def fractionText (s : Spelling) : List Char :=
  match s.decimals with
  | [] => []
  | digits => '.' :: digits

/-- The letter, sign and digits of an exponent. -/
def exponentText (s : Spelling) : List Char :=
  match s.exponent with
  | none => []
  | some power => 'e' :: (if power < 0 then '-' else '+') :: Nat.toDigits 10 power.natAbs

/-- The parts behind one another. -/
def text (s : Spelling) : List Char :=
  s.whole ++ (s.fractionText ++ s.exponentText)

/-- All digits as one number. -/
def coefficient (s : Spelling) : Nat :=
  natOf (s.whole ++ s.decimals)

/-- The power of ten of the last digit. -/
def power (s : Spelling) : Int :=
  s.exponent.getD 0 - s.decimals.length

/-- The number that the parts are read as. -/
def number? (s : Spelling) (negative : Bool) : Option Json.Number :=
  Number.ofDigits? negative s.whole s.decimals s.exponent

/-- The parts are digits, and a zero in front stands alone. -/
structure Proper (s : Spelling) : Prop where
  whole_digits : ∀ c ∈ s.whole, c.isDigit = true
  whole_ne_nil : s.whole ≠ []
  whole_leading : s.whole.head? = some '0' → s.whole.length = 1
  decimals_digits : ∀ c ∈ s.decimals, c.isDigit = true

theorem proper_iff (s : Spelling) :
    s.Proper ↔ (s.whole.all Char.isDigit = true ∧ s.decimals.all Char.isDigit = true) ∧
      s.whole ≠ [] ∧ (s.whole.head? = some '0' → s.whole.length = 1) := by
  rw [List.all_eq_true, List.all_eq_true]
  constructor
  · intro proper
    exact ⟨⟨proper.whole_digits, proper.decimals_digits⟩, proper.whole_ne_nil, proper.whole_leading⟩
  · rintro ⟨⟨whole, decimals⟩, nonempty, leading⟩
    exact ⟨whole, nonempty, leading, decimals⟩

instance (s : Spelling) : Decidable s.Proper :=
  decidable_of_iff _ s.proper_iff.symm

theorem fraction?_text {s : Spelling} (proper : s.Proper) {rest : List Char}
    (ends : ∀ c ∈ rest.head?, c.isDigit = false ∧ c ≠ '.') :
    fraction? (s.fractionText ++ rest) = some (s.decimals, rest) := by
  unfold fractionText
  split
  · rename_i none
    rw [none, List.nil_append]
    cases rest with
    | nil => rfl
    | cons c rest =>
      have point : c ≠ '.' := (ends c rfl).2
      unfold fraction?
      split
      · rename_i equal
        cases equal
        contradiction
      · rfl
  · rename_i some
    have inside := proper.decimals_digits
    have boundary : ∀ c ∈ rest.head?, c.isDigit = false := fun c head => (ends c head).1
    rw [List.cons_append, fraction?]
    simp only [takeWhile_isDigit inside boundary, dropWhile_isDigit inside boundary]
    rw [if_neg (by simpa using some)]

theorem exponent?_text (s : Spelling) {rest : List Char} (ends : EndsNumber rest) :
    exponent? (s.exponentText ++ rest) = some (s.exponent, rest) := by
  unfold exponentText
  split
  · rename_i none
    rw [none, List.nil_append]
    cases rest with
    | nil => rfl
    | cons c rest =>
      obtain ⟨-, -, small, large⟩ := ends c rfl
      simp [exponent?, small, large]
  · rename_i power some
    have inside : ∀ c ∈ Nat.toDigits 10 power.natAbs, c.isDigit = true :=
      fun c mem => isDigit_of_mem_toDigits mem
    have boundary : ∀ c ∈ rest.head?, c.isDigit = false := fun c head => (ends c head).1
    have digits := takeWhile_isDigit inside boundary
    have after := dropWhile_isDigit inside boundary
    rw [some]
    by_cases below : power < 0
    · have size : -(power.natAbs : Int) = power := by omega
      simp [exponent?, below, digits, after, natOf_toDigits, Nat.toDigits_ne_nil, size,
        -Nat.cast_natAbs]
    · have size : (power.natAbs : Int) = power := by omega
      simp [exponent?, below, digits, after, natOf_toDigits, Nat.toDigits_ne_nil, size,
        -Nat.cast_natAbs]

section Parts

variable (s : Spelling) {rest : List Char} (ends : EndsNumber rest)
include ends

/-- What stands behind the decimals does not go on them. -/
theorem head?_exponentText :
    ∀ c ∈ (s.exponentText ++ rest).head?, c.isDigit = false ∧ c ≠ '.' := by
  unfold exponentText
  split
  · intro c head
    exact ⟨(ends c head).1, (ends c head).2.1⟩
  · intro c head
    cases head
    decide

/-- What stands behind the digits in front does not go on them. -/
theorem head?_fractionText :
    ∀ c ∈ (s.fractionText ++ (s.exponentText ++ rest)).head?, c.isDigit = false := by
  unfold fractionText
  split
  · intro c head
    exact (head?_exponentText s ends c head).1
  · intro c head
    cases head
    decide

variable {s} (proper : s.Proper)
include proper

theorem takeWhile_text : (s.text ++ rest).takeWhile Char.isDigit = s.whole := by
  rw [text, List.append_assoc, List.append_assoc]
  exact takeWhile_isDigit proper.whole_digits (head?_fractionText s ends)

theorem dropWhile_text :
    (s.text ++ rest).dropWhile Char.isDigit = s.fractionText ++ (s.exponentText ++ rest) := by
  rw [text, List.append_assoc, List.append_assoc]
  exact dropWhile_isDigit proper.whole_digits (head?_fractionText s ends)

end Parts

/-- **A number is taken apart as it was put together.** -/
theorem unsigned?_text (negative : Bool) {s : Spelling} (proper : s.Proper) {rest : List Char}
    (ends : EndsNumber rest) :
    unsigned? negative (s.text ++ rest) =
      some (.number (s.number? negative), rest) := by
  have whole := takeWhile_text ends proper
  have after := dropWhile_text ends proper
  have leading : ¬(s.whole.isEmpty || (s.whole.head? == some '0' && 1 < s.whole.length)) := by
    have nonempty := proper.whole_ne_nil
    by_cases zero : s.whole.head? = some '0'
    · simp [nonempty, proper.whole_leading zero]
    · simp [nonempty, zero]
  have fraction := fraction?_text proper (head?_exponentText s ends)
  have exponent := exponent?_text s ends
  unfold unsigned?
  simp only [whole, after, if_neg leading, fraction, exponent, Option.bind_eq_bind,
    Option.bind_some, Option.pure_def, number?]

/-- Digits with a fraction and an exponent behind them are taken apart in one way. -/
theorem text_inj {s t : Spelling} (proper : s.Proper) (proper' : t.Proper)
    (same : s.text = t.text) : s = t := by
  have whole : s.whole = t.whole := by
    rw [← takeWhile_text endsNumber_nil proper, same, takeWhile_text endsNumber_nil proper']
  have behind : s.fractionText ++ (s.exponentText ++ []) =
      t.fractionText ++ (t.exponentText ++ []) := by
    rw [← dropWhile_text endsNumber_nil proper, same, dropWhile_text endsNumber_nil proper']
  have fraction := fraction?_text proper (head?_exponentText s endsNumber_nil)
  rw [behind, fraction?_text proper' (head?_exponentText t endsNumber_nil), Option.some.injEq,
    Prod.mk.injEq] at fraction
  obtain ⟨decimals, rest⟩ := fraction
  have exponent := exponent?_text s endsNumber_nil
  rw [← rest, exponent?_text t endsNumber_nil, Option.some.injEq, Prod.mk.injEq] at exponent
  cases s
  cases t
  rw [Spelling.mk.injEq]
  exact ⟨whole, decimals.symm, exponent.1.symm⟩

/-- What the parts of a number that is no integer are read as: what is gathered of their digits,
scaled; and that is all of them if a word holds them. -/
theorem exists_gathered {s : Spelling} (fractional : s.decimals ≠ [] ∨ s.exponent ≠ none) :
    ∃ m k : Nat, m < 2 ^ 64 ∧ m * 10 ^ k ≤ s.coefficient ∧
      (s.coefficient < 2 ^ 64 → m = s.coefficient ∧ k = 0) ∧
      ∀ negative,
        s.number? negative = Number.signed? negative ((Binary64.ofInt m).scale (s.power + k)) := by
  have first := gathers (n := 0) (by decide) s.whole
  have second := gathers first.word s.decimals
  refine ⟨_, _, second.word, gathered_le first second, fun word => ?_, fun negative => ?_⟩
  · rw [coefficient, natOf, Nat.ofDigitChars_append] at word ⊢
    have front := gather_of_lt (Nat.lt_of_le_of_lt (le_ofDigitChars _ _) word)
    simp only [front, gather_of_lt word]
    exact ⟨trivial, rfl⟩
  · have places : ((gather 0 s.whole).2.length : Int) -
        (s.decimals.length - (gather (gather 0 s.whole).1 s.decimals).2.length) +
          s.exponent.getD 0 =
        s.power + ((gather 0 s.whole).2.length +
          (gather (gather 0 s.whole).1 s.decimals).2.length : Nat) := by
      rw [power]
      omega
    unfold number? Number.ofDigits?
    dsimp only
    split
    · rename_i noDecimals noExponent
      simp [noDecimals, noExponent] at fractional
    · rw [places]

end Spelling

theorem natOf_zeros_append (n : Nat) (digits : List Char) :
    natOf (Layout.zeros n ++ digits) = natOf digits := by
  unfold natOf Layout.zeros
  rw [Nat.ofDigitChars_append, Nat.ofDigitChars_replicate_zero, Nat.mul_zero]

theorem natOf_append_zeros (digits : List Char) (n : Nat) :
    natOf (digits ++ Layout.zeros n) = natOf digits * 10 ^ n := by
  unfold natOf Layout.zeros
  rw [Nat.ofDigitChars_append, Nat.ofDigitChars_replicate_zero, Nat.mul_comm]

theorem isDigit_of_mem_zeros {n : Nat} {c : Char} (mem : c ∈ Layout.zeros n) :
    c.isDigit = true := by
  rw [List.eq_of_mem_replicate mem]
  rfl

theorem isDigit_of_mem_zero : ∀ c ∈ ['0'], c.isDigit = true :=
  List.forall_mem_singleton.2 rfl

theorem isDigit_of_mem_append {front back : List Char} (first : ∀ c ∈ front, c.isDigit = true)
    (second : ∀ c ∈ back, c.isDigit = true) : ∀ c ∈ front ++ back, c.isDigit = true := by
  intro c mem
  cases List.mem_append.1 mem with
  | inl mem => exact first c mem
  | inr mem => exact second c mem

/-- The digits of an integer as the parts of a number's text. -/
theorem Spelling.proper_toDigits (n : Nat) : Spelling.Proper ⟨Nat.toDigits 10 n, [], none⟩ where
  whole_digits _ mem := isDigit_of_mem_toDigits mem
  whole_ne_nil := Nat.toDigits_ne_nil
  whole_leading zero := by
    cases Nat.eq_zero_or_pos n with
    | inl none => rw [none]; rfl
    | inr some => exact absurd zero (head?_toDigits some)
  decimals_digits _ mem := by cases mem

/-- The parts make up a text and stand for a magnitude with a pattern. -/
structure Spelling.Writes (s : Spelling) (text : List Char) (pattern : Nat) : Prop where
  proper : s.Proper
  text : s.text = text
  pattern : Binary64.decimalPattern s.coefficient s.power = pattern

/-- The parts make up a text, which reads as a number with a pattern. -/
structure Spelling.Spells (s : Spelling) (text : List Char) (pattern : Nat) : Prop
    extends s.Writes text pattern where
  fractional : s.decimals ≠ [] ∨ s.exponent ≠ none

/-- Digits with a point among them. -/
theorem Spelling.spells_point (front back : List Char) (first : ∀ c ∈ front, c.isDigit = true)
    (second : ∀ c ∈ back, c.isDigit = true) (hasFront : front ≠ []) (hasBack : back ≠ [])
    (leading : front.head? = some '0' → front.length = 1) :
    Spells ⟨front, back, none⟩ (front ++ '.' :: back)
      (Binary64.decimalPattern (natOf (front ++ back)) (-(back.length : Int))) where
  proper := ⟨first, hasFront, leading, second⟩
  fractional := Or.inl hasBack
  text := by
    cases back with
    | nil => exact absurd rfl hasBack
    | cons _ _ => simp [Spelling.text, fractionText, exponentText]
  pattern := by simp [coefficient, power]

namespace Layout

/-- The point falls in front of the digits, behind them or between them; whatever holds in these
three cases holds of positional notation. -/
theorem positionalDigits_cases {P : List Char → Nat → Prop} {wholeEnd digits : List Char}
    (before : ∀ n : Nat, P ('0' :: '.' :: zeros n ++ digits)
      (Binary64.decimalPattern (natOf digits) (-(n + digits.length : Nat))))
    (behind : ∀ n : Nat, P (digits ++ zeros n ++ wholeEnd)
      (Binary64.decimalPattern (natOf digits) n))
    (between : ∀ n : Nat, 0 < n → n < digits.length → P (digits.take n ++ '.' :: digits.drop n)
      (Binary64.decimalPattern (natOf digits) (n - digits.length))) (point : Int) :
    P (positionalDigits wholeEnd digits point)
      (Binary64.decimalPattern (natOf digits) (point - digits.length)) := by
  unfold positionalDigits
  split
  · have exponent : point - digits.length = -((-point).toNat + digits.length : Nat) := by omega
    rw [exponent]
    exact before (-point).toNat
  · split
    · have exponent : point - digits.length = (point.toNat - digits.length : Nat) := by omega
      rw [exponent]
      exact behind _
    · have exponent : point - digits.length = point.toNat - digits.length := by omega
      rw [exponent]
      exact between _ (by omega) (by omega)

section Positional

variable {digits : List Char} (inside : ∀ c ∈ digits, c.isDigit = true) (nonempty : digits ≠ [])
include inside nonempty

/-- The point falls in front of the digits. -/
theorem exists_spells_before (n : Nat) :
    ∃ s : Spelling, s.Spells ('0' :: '.' :: zeros n ++ digits)
      (Binary64.decimalPattern (natOf digits) (-(n + digits.length : Nat))) := by
  have back := isDigit_of_mem_append (fun _ => isDigit_of_mem_zeros (n := n)) inside
  have spells := Spelling.spells_point ['0'] (zeros n ++ digits) isDigit_of_mem_zero back (by simp)
    (by simp [nonempty]) (fun _ => rfl)
  have value : natOf (['0'] ++ (zeros n ++ digits)) = natOf digits :=
    natOf_zeros_append (n + 1) digits
  have places : (zeros n ++ digits).length = n + digits.length := by
    rw [List.length_append, zeros, List.length_replicate]
  rw [value, places] at spells
  exact ⟨_, spells⟩

variable (leading : digits.head? ≠ some '0')
include leading

/-- The point falls behind the digits, and a zero behind it. -/
theorem exists_spells_behind (n : Nat) :
    ∃ s : Spelling, s.Spells (digits ++ zeros n ++ ['.', '0'])
      (Binary64.decimalPattern (natOf digits) n) := by
  have front := isDigit_of_mem_append inside (fun _ => isDigit_of_mem_zeros (n := n))
  have head : (digits ++ zeros n).head? ≠ some '0' := by
    rw [List.head?_append_of_ne_nil _ nonempty]
    exact leading
  have spells := Spelling.spells_point (digits ++ zeros n) ['0'] front isDigit_of_mem_zero
    (by simp [nonempty]) (by simp) (fun zero => absurd zero head)
  have value : natOf (digits ++ zeros n ++ ['0']) = natOf digits * 10 ^ (n + 1) := by
    rw [← natOf_append_zeros, zeros, zeros, List.replicate_succ', List.append_assoc]
  have places : -(['0'].length : Int) = n - (n + 1 : Nat) := by
    rw [List.length_singleton]
    omega
  rw [value, places, Binary64.decimalPattern_shift] at spells
  exact ⟨_, spells⟩

/-- The point falls between the digits. -/
theorem exists_spells_between {n : Nat} (first : 0 < n) (last : n < digits.length) :
    ∃ s : Spelling, s.Spells (digits.take n ++ '.' :: digits.drop n)
      (Binary64.decimalPattern (natOf digits) (n - digits.length)) := by
  have front : ∀ c ∈ digits.take n, c.isDigit = true :=
    fun c mem => inside c (List.mem_of_mem_take mem)
  have back : ∀ c ∈ digits.drop n, c.isDigit = true :=
    fun c mem => inside c (List.mem_of_mem_drop mem)
  have hasFront : digits.take n ≠ [] := by
    simp only [ne_eq, List.take_eq_nil_iff, nonempty, or_false]
    omega
  have hasBack : digits.drop n ≠ [] := by
    rw [ne_eq, List.drop_eq_nil_iff]
    omega
  have head : (digits.take n).head? ≠ some '0' := by
    rw [List.head?_take, if_neg (by omega)]
    exact leading
  have spells := Spelling.spells_point (digits.take n) (digits.drop n) front back hasFront hasBack
    (fun zero => absurd zero head)
  have places : -((digits.drop n).length : Int) = n - digits.length := by
    rw [List.length_drop]
    omega
  rw [List.take_append_drop, places] at spells
  exact ⟨_, spells⟩

/-- A number in positional notation. -/
theorem exists_spells_positional (point : Int) :
    ∃ s : Spelling, s.Spells (positionalDigits numberLayout.wholeEnd.toList digits point)
      (Binary64.decimalPattern (natOf digits) (point - digits.length)) := by
  refine positionalDigits_cases (P := fun text pattern => ∃ s : Spelling, s.Spells text pattern)
    (fun n => ?_) (fun n => ?_) (fun n first last => ?_) point
  · exact exists_spells_before inside nonempty n
  · exact exists_spells_behind inside nonempty leading n
  · exact exists_spells_between inside nonempty leading first last

end Positional

/-- A number with an exponent. -/
theorem exists_spells_scientific {digits : List Char} (inside : ∀ c ∈ digits, c.isDigit = true)
    (nonempty : digits ≠ []) (power : Int) :
    ∃ s : Spelling, s.Spells (numberLayout.scientificDigits digits power)
      (Binary64.decimalPattern (natOf digits) (power + 1 - digits.length)) := by
  cases digits with
  | nil => exact absurd rfl nonempty
  | cons d ds =>
    obtain ⟨first, second⟩ := List.forall_mem_cons.1 inside
    have front : ∀ c ∈ [d], c.isDigit = true := List.forall_mem_singleton.2 first
    refine ⟨⟨[d], ds, some power⟩, ⟨⟨front, by simp, fun _ => rfl, second⟩, ?_, ?_⟩, by simp⟩
    · cases ds <;> by_cases below : power < 0 <;>
        simp [Spelling.text, Spelling.fractionText, Spelling.exponentText, scientificDigits, below,
          numberLayout]
    · have places : power - (ds.length : Int) = power + 1 - ((d :: ds).length : Int) := by
        rw [List.length_cons]
        omega
      rw [← places]
      rfl

/-- Every decimal is written as a number that reads back to its pattern. -/
theorem exists_spells (d : Decimal) :
    ∃ s : Spelling, s.Spells (numberLayout.digitsOf d) d.pattern := by
  have inside : ∀ c ∈ Nat.toDigits 10 d.coefficient, c.isDigit = true :=
    fun c mem => isDigit_of_mem_toDigits mem
  have nonempty : Nat.toDigits 10 d.coefficient ≠ [] := Nat.toDigits_ne_nil
  unfold digitsOf
  dsimp only
  split
  · rename_i zero
    have spells := Spelling.spells_point ['0'] ['0'] isDigit_of_mem_zero isDigit_of_mem_zero
      (by simp) (by simp) (fun _ => rfl)
    have pattern : d.pattern = 0 := by simp [Decimal.pattern, Binary64.decimalPattern, zero]
    have same : Binary64.decimalPattern (natOf (['0'] ++ ['0'])) (-(['0'] : List Char).length) =
        d.pattern := by
      rw [pattern]
      decide
    rw [same] at spells
    rw [zero]
    exact ⟨_, spells⟩
  · rename_i positive
    have leading := head?_toDigits (Nat.pos_of_ne_zero positive)
    split
    · have spells := exists_spells_positional inside nonempty leading
        ((Nat.toDigits 10 d.coefficient).length + d.exponent)
      rw [natOf_toDigits, add_sub_cancel_left] at spells
      exact spells
    · have spells := exists_spells_scientific inside nonempty
        ((Nat.toDigits 10 d.coefficient).length + d.exponent - 1)
      rw [natOf_toDigits, Int.sub_add_cancel, add_sub_cancel_left] at spells
      exact spells

end Layout

namespace Json

theorem Token.first?_of_isDigit {c : Char} (digit : c.isDigit = true) (rest : List Char) :
    first? c rest = unsigned? false (c :: rest) := by
  unfold first?
  split
  all_goals first
    | exact absurd digit (by decide)
    | exact if_pos digit

theorem Token.isSpace_of_isDigit {c : Char} (digit : c.isDigit = true) : isSpace c = false := by
  by_contra space
  simp only [isSpace, Bool.not_eq_false, Bool.or_eq_true, beq_iff_eq, or_assoc] at space
  rcases space with rfl | rfl | rfl | rfl <;> cases digit

/-- A sign. -/
def signText (negative : Bool) : List Char :=
  if negative then ['-'] else []

/-- A number with its sign is one token. -/
theorem Token.first?_signed (negative : Bool) {s : Spelling} (proper : s.Proper) {rest : List Char}
    (ends : EndsNumber rest) :
    ∃ c cs, signText negative ++ s.text = c :: cs ∧ isSpace c = false ∧
      first? c (cs ++ rest) = some (.number (s.number? negative), rest) := by
  have read := Spelling.unsigned?_text negative proper ends
  cases negative with
  | true => exact ⟨'-', s.text, rfl, rfl, read⟩
  | false =>
    obtain ⟨c, cs, whole⟩ := List.exists_cons_of_ne_nil proper.whole_ne_nil
    have digit : c.isDigit = true := proper.whole_digits c (whole ▸ List.mem_cons_self)
    have text : s.text = c :: (cs ++ (s.fractionText ++ s.exponentText)) := by
      rw [Spelling.text, whole]
      rfl
    refine ⟨c, cs ++ (s.fractionText ++ s.exponentText), text, isSpace_of_isDigit digit, ?_⟩
    rw [first?_of_isDigit digit, ← List.cons_append, ← text]
    exact read

/-- An integer is its sign and its digits. -/
theorem Number.text_int (n : Int) (fits : FitsWord n) :
    (int n fits).text.toList = signText (decide (n < 0)) ++ Nat.toDigits 10 n.natAbs := by
  have text : (int n fits).text = n.repr := rfl
  rw [text, Int.repr_eq_if, Nat.repr_eq_ofList_toDigits, Nat.repr_eq_ofList_toDigits]
  split
  · have positive : ¬n < 0 := by omega
    have size : n.toNat = n.natAbs := by omega
    simp [signText, positive, size]
  · have negative : n < 0 := by omega
    have size : (-n).toNat = n.natAbs := by omega
    simp [signText, negative, size]

/-- A number is written as its sign and what a layout makes of its magnitude. -/
theorem toList_write (layout : Layout) {x : Binary64} (number : x.isNaN = false) :
    (layout.write x).toList = signText x.isNegative ++
      if x.isFinite then layout.digitsOf (Decimal.shortest layout.tie x)
      else layout.infinityWord.toList := by
  rw [Layout.write, number]
  cases sign : x.isNegative <;> cases finite : x.isFinite <;> simp [signText]

theorem Number.text_real (x : Binary64) (finite : x.isFinite = true) :
    (real x finite).text.toList =
      signText x.isNegative ++ numberLayout.digitsOf (Decimal.shortest .even x) := by
  have text : (real x finite).text = numberLayout.write x := rfl
  rw [text, toList_write numberLayout (Binary64.isNaN_eq_false_of_isFinite finite), if_pos finite]
  rfl

/-- The sign and the digits of an integer are read as the integer. -/
theorem Number.ofDigits?_natAbs {n : Int} (fits : FitsWord n) :
    ofDigits? (decide (n < 0)) (Nat.toDigits 10 n.natAbs) [] none = some (.int n fits) := by
  have word : n.natAbs < 2 ^ 64 := by
    obtain ⟨low, high⟩ := fits
    simp only [twoPow] at low high
    omega
  have gathered : gather 0 (Nat.toDigits 10 n.natAbs) = (n.natAbs, []) := by
    rw [gather_of_lt (by rw [Nat.ofDigitChars_ten_toDigits]; exact word),
      Nat.ofDigitChars_ten_toDigits]
  have value : (if decide (n < 0) = true then -(n.natAbs : Int) else n.natAbs) = n := by
    by_cases negative : n < 0
    · rw [decide_eq_true negative, if_pos rfl]
      omega
    · rw [decide_eq_false negative, if_neg Bool.false_ne_true]
      omega
  have notMinusZero : ¬(decide (n < 0) = true ∧ n.natAbs = 0) := by
    rw [decide_eq_true_eq]
    omega
  unfold ofDigits?
  simp only [gathered]
  unfold whole?
  simp only [value]
  rw [dif_pos ⟨fits, notMinusZero⟩]

theorem Number.signed?_withSign (negative : Bool) {pattern : Nat}
    (below : pattern < Binary64.infinityBits) :
    signed? negative (.withSign false pattern) =
      some (.real (.withSign negative pattern) (Binary64.isFinite_withSign negative below)) := by
  have positive := Binary64.isNegative_withSign false (Nat.le_of_lt below)
  have same := Binary64.unsigned_withSign false (Nat.le_of_lt below)
  have signed : (if negative = true then (Binary64.withSign false pattern).neg
      else .withSign false pattern) = .withSign negative pattern := by
    cases negative with
    | true =>
      rw [if_pos rfl, Binary64.neg, positive]
      exact congrArg (Binary64.withSign true) same
    | false => exact if_neg Bool.false_ne_true
  rw [signed?, signed, real?, dif_pos (Binary64.isFinite_withSign negative below)]

/-- A finite number stays finite under a sign. -/
theorem Number.exists_signed? (negative : Bool) {x : Binary64} (finite : x.isFinite = true) :
    ∃ y, ∃ h : y.isFinite = true, signed? negative x = some (.real y h) := by
  have signed : (if negative = true then x.neg else x).isFinite = true := by
    split
    · exact Binary64.isFinite_withSign _ (Binary64.unsigned_lt_of_isFinite finite)
    · exact finite
  exact ⟨_, signed, dif_pos signed⟩

end Json

namespace Spelling

open Binary64 (decimalPattern infinityBits withSign)

variable {s : Spelling} (fractional : s.decimals ≠ [] ∨ s.exponent ≠ none)
include fractional

/-- **Few digits with a small power of ten are read as the number nearest to what they spell.** -/
theorem number?_of_short (small : s.coefficient ≤ 2 ^ 53) (near : s.power.natAbs ≤ 22)
    (below : decimalPattern s.coefficient s.power < infinityBits) (negative : Bool) :
    s.number? negative =
      some (.real (withSign negative (decimalPattern s.coefficient s.power))
        (Binary64.isFinite_withSign negative below)) := by
  obtain ⟨m, k, -, -, all, read⟩ := exists_gathered fractional
  obtain ⟨rfl, rfl⟩ := all (by omega)
  rw [read, Int.natCast_zero, Int.add_zero, Binary64.scale_eq_decimalPattern small near]
  exact Number.signed?_withSign negative below

/-- What spells a number before the largest one is read as a number. -/
theorem exists_number? (below : decimalPattern s.coefficient s.power < infinityBits - 1)
    (negative : Bool) : ∃ y, ∃ h : y.isFinite = true, s.number? negative = some (.real y h) := by
  obtain ⟨m, k, word, gathered, -, read⟩ := exists_gathered fractional
  rw [read]
  exact Number.exists_signed? negative (Binary64.isFinite_scale word gathered below)

end Spelling

/-- The parts make up a text, which is read as a number that is no integer. -/
structure Spelling.Reads (s : Spelling) (text : List Char) : Prop where
  proper : s.Proper
  text : s.text = text
  number (negative : Bool) : ∃ y, ∃ h : y.isFinite = true, s.number? negative = some (.real y h)

/-- The shortest decimal goes by the magnitude. -/
theorem Decimal.shortest_congr (tie : Decimal.Tie) {x y : Binary64}
    (same : x.unsigned = y.unsigned) : shortest tie x = shortest tie y := by
  have pattern : x.bits.toNat % Nat.pow 2 63 = y.bits.toNat % Nat.pow 2 63 := same
  simp only [shortest, Binary64.magnitude_congr same, pattern]

/-- The text of the largest number. -/
theorem Layout.digitsOf_largest :
    Json.numberLayout.digitsOf
        (Decimal.shortest .even (.withSign false (Binary64.infinityBits - 1))) =
      "1.7976931348623157e+308".toList := by
  decide +kernel

/-- **Every finite number is written as something that is read as a number.** -/
theorem Layout.exists_reads {x : Binary64} (finite : x.isFinite = true) :
    ∃ s : Spelling, s.Reads (Json.numberLayout.digitsOf (Decimal.shortest .even x)) := by
  by_cases last : x.unsigned = Binary64.infinityBits - 1
  · -- The largest number is so close to infinity that only its own text tells.
    have same : x.unsigned = (Binary64.withSign false (Binary64.infinityBits - 1)).unsigned := by
      rw [last]
      decide
    rw [Decimal.shortest_congr .even same, digitsOf_largest]
    refine ⟨⟨['1'], "7976931348623157".toList, some 308⟩, ?_, ?_, fun negative => ?_⟩
    · decide
    · decide
    · refine ⟨.withSign negative (Binary64.infinityBits - 1), ?_⟩
      cases negative with
      | false => exact ⟨by decide, by decide +kernel⟩
      | true => exact ⟨by decide, by decide +kernel⟩
  · obtain ⟨s, spells⟩ := exists_spells (Decimal.shortest .even x)
    have pattern : Binary64.decimalPattern s.coefficient s.power = x.unsigned := by
      rw [spells.pattern, Decimal.pattern_shortest _ finite]
    have below := Binary64.unsigned_lt_of_isFinite finite
    exact ⟨s, spells.proper, spells.text, s.exists_number? spells.fractional (by omega)⟩

namespace Json

/-- The text of a number is read as another number, whatever follows that does not go on it. -/
def Number.ReadAs (n m : Number) : Prop :=
  ∀ rest : List Char, EndsNumber rest →
    ∃ c cs, n.text.toList = c :: cs ∧ isSpace c = false ∧
      first? c (cs ++ rest) = some (.number (some m), rest)

/-- **An integer is read as itself.** -/
theorem Number.readAs_int {n : Int} (fits : FitsWord n) : (int n fits).ReadAs (.int n fits) := by
  intro rest ends
  obtain ⟨c, cs, text, visible, read⟩ :=
    first?_signed (decide (n < 0)) (Spelling.proper_toDigits n.natAbs) ends
  refine ⟨c, cs, ?_, visible, ?_⟩
  · rw [Number.text_int, ← text]
    simp [Spelling.text, Spelling.fractionText, Spelling.exponentText]
  · rw [read, Spelling.number?, Number.ofDigits?_natAbs fits]

section Real

variable {x : Binary64} (finite : x.isFinite = true)

theorem Number.readAs_of_spelling {s : Spelling} (proper : s.Proper)
    (text : s.text = numberLayout.digitsOf (Decimal.shortest .even x)) {m : Number}
    (number : s.number? x.isNegative = some m) : (real x finite).ReadAs m := by
  intro rest ends
  obtain ⟨c, cs, written, visible, read⟩ := first?_signed x.isNegative proper ends
  refine ⟨c, cs, ?_, visible, ?_⟩
  · rw [Number.text_real, ← text, written]
  · rw [read, number]

/-- **A number that is no integer is read as one that is none either.** -/
theorem Number.exists_readAs_real :
    ∃ y, ∃ h : y.isFinite = true, (real x finite).ReadAs (.real y h) := by
  obtain ⟨s, reads⟩ := Layout.exists_reads finite
  obtain ⟨y, h, number⟩ := reads.number x.isNegative
  exact ⟨y, h, readAs_of_spelling finite reads.proper reads.text number⟩

/-- **A number that is written with few digits and a small power of ten is read as itself.** -/
theorem Number.readAs_real_of_short {s : Spelling} (proper : s.Proper)
    (text : s.text = numberLayout.digitsOf (Decimal.shortest .even x))
    (small : s.coefficient ≤ 2 ^ 53) (near : s.power.natAbs ≤ 22) :
    (real x finite).ReadAs (.real x finite) := by
  obtain ⟨t, spells⟩ := Layout.exists_spells (Decimal.shortest .even x)
  obtain rfl : s = t := Spelling.text_inj proper spells.proper (text.trans spells.text.symm)
  have pattern : Binary64.decimalPattern s.coefficient s.power = x.unsigned := by
    rw [spells.pattern, Decimal.pattern_shortest _ finite]
  have below : Binary64.decimalPattern s.coefficient s.power < Binary64.infinityBits := by
    rw [pattern]
    exact Binary64.unsigned_lt_of_isFinite finite
  refine readAs_of_spelling finite proper text ?_
  rw [Spelling.number?_of_short spells.fractional small near below]
  simp only [pattern, Binary64.withSign_unsigned]

end Real

/-- **Every number is read as a number from its own text.** -/
theorem Number.exists_readAs (n : Number) : ∃ m, n.ReadAs m := by
  cases n with
  | int n fits => exact ⟨_, readAs_int fits⟩
  | real x finite =>
    obtain ⟨y, h, read⟩ := exists_readAs_real finite
    exact ⟨_, read⟩

end Json

end Targeting
